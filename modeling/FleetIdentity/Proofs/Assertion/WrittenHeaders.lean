import FleetIdentity.Assertion.Signer
import FleetIdentity.Proofs.Assertion.HeaderGrammar

/-!
# Written headers are read back

The lines of a header that can be written are one of its groups, and none of them is cut by a
newline or empty. So written headers are read back as what they were written for: a name that occurs
twice is the only thing that can go wrong.

A group may be spelled in ways that are never written, such as a text of one line on a line of its
own. The value that it stands for can be written all the same, so every header that was read can be.
-/

namespace FleetIdentity.HeaderBlock

variable {name : String} {value : HeaderValue} {lines : List (List Char)}

/-! ### Writing one header -/

theorem group_of_write (h : write name value = .ok lines) :
    IsHeaderName name.toList ∧ Group name value lines := by
  unfold write at h
  split at h
  · next named =>
    refine ⟨isName_iff.1 named, ?_⟩
    have nothing : Spells [] [] := .inr ⟨rfl, nofun⟩
    cases value with
    | text text =>
      dsimp only at h
      split at h
      · split at h
        · cases h
        · next no_item =>
          cases h
          have plain : ∀ line ∈ Lines.split text.toList, ¬ ['-', ' '] <+: line := by
            intro line hl start
            exact no_item (List.any_eq_true.2 ⟨line, hl, List.isPrefixOf_iff_prefix.2 start⟩)
          have group := @Group.block name _ nothing _ (Lines.split_ne_nil text.toList) plain
          rwa [Lines.join_split, String.ofList_toList] at group
      · split at h
        · next blank =>
          cases h
          obtain rfl := String.isEmpty_iff.1 blank
          exact .empty nothing
        · next present =>
          cases h
          have ne : text.toList ≠ [] := fun e => present (String.isEmpty_iff.2
            (String.toList_eq_nil_iff.1 e))
          have group := @Group.inline name _ _ (.inl rfl) ne
          rw [String.ofList_toList] at group
          simpa using group
    | list items =>
      dsimp only at h
      split at h
      · cases h
      · next some_item =>
        split at h
        · cases h
        · cases h
          have ne : items.map String.toList ≠ [] := by simpa using some_item
          have group := @Group.list name _ nothing _ ne
          simpa [Function.comp_def] using group
  · cases h

theorem newline_not_mem_of_write (h : write name value = .ok lines) :
    ∀ line ∈ lines, '\n' ∉ line := by
  have no_newline : '\n' ∉ name.toList :=
    not_mem_of_isHeaderName (group_of_write h).1 (by decide)
  unfold write at h
  split at h
  · cases value with
    | text text =>
      dsimp only at h
      split at h
      · split at h
        · cases h
        · cases h
          intro line hl
          rcases List.mem_cons.1 hl with rfl | hl
          · simp [no_newline]
          · obtain ⟨part, hp, rfl⟩ := List.mem_map.1 hl
            simp [Lines.newline_not_mem_of_mem_split hp]
      · next one_line =>
        have text_line : '\n' ∉ text.toList := by simpa using one_line
        split at h
        · cases h
          simp [no_newline]
        · cases h
          simp [no_newline, text_line]
    | list items =>
      dsimp only at h
      split at h
      · cases h
      · split at h
        · cases h
        · next one_line =>
          cases h
          intro line hl
          rcases List.mem_cons.1 hl with rfl | hl
          · simp [no_newline]
          · obtain ⟨item, hi, rfl⟩ := List.mem_map.1 hl
            have item_line : '\n' ∉ item.toList := fun newline =>
              one_line (List.any_eq_true.2 ⟨item, hi, by simpa using newline⟩)
            simp [item_line]
  · cases h

theorem Spells.subset {value text : List Char} (spelled : Spells value text) : text ⊆ value := by
  rcases spelled with eq | ⟨eq, _⟩
  · rw [eq]
    exact List.subset_cons_self _ _
  · rw [eq]
    exact List.Subset.refl _

/-- What a group stands for can be written, in one of its spellings. -/
theorem write_of_group (named : IsHeaderName name.toList) (group : Group name value lines)
    (one_line : ∀ line ∈ lines, '\n' ∉ line) : ∃ written, write name value = .ok written := by
  unfold write
  rw [if_pos (isName_iff.2 named)]
  cases group with
  | @inline value text spelled ne =>
    have text_line : '\n' ∉ text := by
      intro newline
      apply one_line _ List.mem_cons_self
      simp [spelled.subset newline]
    simp [text_line, ne]
  | empty spelled => simp
  | @list value spelled items some_item =>
    have items_line : ∀ item ∈ items, '\n' ∉ item := by
      intro item mem newline
      apply one_line ([' ', ' ', '-', ' '] ++ item) (by simp [mem])
      simp [newline]
    have not_any : (items.map String.ofList).any (·.toList.contains '\n') = false := by
      simpa using items_line
    have not_empty : (items.map String.ofList).isEmpty = false := by simpa using some_item
    dsimp only
    rw [not_empty, not_any]
    exact ⟨_, rfl⟩
  | @block value spelled texts some_line no_item =>
    dsimp only
    rw [String.toList_ofList]
    by_cases newline : (Lines.join texts).contains '\n' = true
    · -- Several lines are cut again where they were joined.
      have texts_line : ∀ text ∈ texts, '\n' ∉ text := by
        intro text mem newline
        apply one_line ([' ', ' '] ++ text) (by simp [mem])
        simp [newline]
      have plain : texts.any (['-', ' '].isPrefixOf ·) = false := by
        simpa [List.isPrefixOf_iff_prefix] using no_item
      rw [if_pos newline, Lines.split_join some_line texts_line, plain]
      exact ⟨_, rfl⟩
    · rw [if_neg newline]
      split
      · exact ⟨_, rfl⟩
      · exact ⟨_, rfl⟩

theorem Groups.group_of_mem {entries : List (String × HeaderValue)} (h : Groups entries lines)
    (mem : (name, value) ∈ entries) :
    IsHeaderName name.toList ∧ ∃ part, Group name value part ∧ part ⊆ lines := by
  induction h with
  | nil => cases mem
  | cons named group later ih =>
    rcases List.mem_cons.1 mem with eq | mem
    · cases eq
      exact ⟨named, _, group, List.subset_append_left _ _⟩
    · obtain ⟨named, part, group, within⟩ := ih mem
      exact ⟨named, part, group, List.subset_append_of_subset_right _ within⟩

/-- Every header of a block that was read can be written. -/
theorem write_of_parse {block : List Char} {headers : Headers} (h : parse block = .ok headers)
    (found : headers.get? name = some value) : ∃ written, write name value = .ok written := by
  obtain ⟨entries, groups, _⟩ := groups_of_readLines h
  have mem := (get?_of_groups groups h name value).1 found
  obtain ⟨named, part, group, within⟩ := groups.group_of_mem mem
  apply write_of_group named group
  intro line hl
  exact Lines.newline_not_mem_of_mem_split (within hl)

/-! ### Writing several headers -/

/-- The lines of several headers, each written on its own. -/
inductive WrittenAll : List (String × HeaderValue) → List (List Char) → Prop where
  | nil : WrittenAll [] []
  | cons {name : String} {value : HeaderValue} {entries : List (String × HeaderValue)}
      {lines more : List (List Char)} (written : write name value = .ok lines)
      (later : WrittenAll entries more) : WrittenAll ((name, value) :: entries) (lines ++ more)

namespace WrittenAll

variable {entries : List (String × HeaderValue)}

theorem groups (h : WrittenAll entries lines) : Groups entries lines := by
  induction h with
  | nil => exact .nil
  | cons written later ih =>
    obtain ⟨named, group⟩ := group_of_write written
    exact .cons named group ih

theorem line (h : WrittenAll entries lines) : ∀ line ∈ lines, '\n' ∉ line ∧ line ≠ [] := by
  induction h with
  | nil => nofun
  | cons written later ih =>
    intro line hl
    rcases List.mem_append.1 hl with hl | hl
    · exact ⟨newline_not_mem_of_write written line hl, (group_of_write written).2.ne_nil line hl⟩
    · exact ih line hl

theorem ne_nil (some_entry : entries ≠ []) (h : WrittenAll entries lines) : lines ≠ [] := by
  cases h with
  | nil => exact absurd rfl some_entry
  | cons written later =>
    obtain ⟨rest, more, rfl⟩ := (group_of_write written).2.start
    exact List.cons_ne_nil _ _

theorem colon_mem (some_entry : entries ≠ []) (h : WrittenAll entries lines) :
    ':' ∈ Lines.join lines := by
  cases h with
  | nil => exact absurd rfl some_entry
  | cons written later =>
    obtain ⟨rest, more, rfl⟩ := (group_of_write written).2.start
    rw [List.cons_append]
    generalize more ++ _ = others
    cases others with
    | nil => simp [Lines.join]
    | cons second others => simp [Lines.join]

end WrittenAll

/-- A block of written headers holds exactly these headers. -/
theorem parse_join {entries : List (String × HeaderValue)} (some_line : lines ≠ [])
    (h : WrittenAll entries lines) :
    parse (Lines.join lines) = collect Dictionary.empty entries := by
  apply parse_groups
  rw [Lines.split_join some_line fun line hl => (h.line line hl).1]
  exact h.groups

end FleetIdentity.HeaderBlock
