import FleetIdentity.Text.Lines

/-!
# Lines, and the first blank line

`split` and `join` undo each other on lines without newlines. `splitBlank?` cuts at the first of two
newlines in a row: the text before the cut has no empty line unless it starts with a newline, and
lines that are not empty are passed over whole. Text that follows does not move a cut that is there.
-/

namespace FleetIdentity.Lines

theorem split_append_of_not_mem {line : List Char} (h : '\n' ∉ line) (rest : List Char) :
    split (line ++ '\n' :: rest) = line :: split rest := by
  induction line with
  | nil => rfl
  | cons c line ih =>
    have hc : c ≠ '\n' := fun e => h (e ▸ List.mem_cons_self)
    have hl : '\n' ∉ line := fun m => h (List.mem_cons_of_mem _ m)
    rw [split] at ih ⊢
    rw [List.cons_append, cut, if_neg hc, ih hl]

theorem split_of_not_mem {line : List Char} (h : '\n' ∉ line) : split line = [line] := by
  induction line with
  | nil => rfl
  | cons c line ih =>
    have hc : c ≠ '\n' := fun e => h (e ▸ List.mem_cons_self)
    have hl : '\n' ∉ line := fun m => h (List.mem_cons_of_mem _ m)
    rw [split] at ih ⊢
    rw [cut, if_neg hc, ih hl]

/-- Joined lines are read back, if there is one at all. -/
theorem split_join {lines : List (List Char)} (some_line : lines ≠ [])
    (h : ∀ line ∈ lines, '\n' ∉ line) : split (join lines) = lines := by
  fun_induction join lines with
  | case1 => exact absurd rfl some_line
  | case2 line => exact split_of_not_mem (h line List.mem_cons_self)
  | case3 line more some_more ih =>
    rw [split_append_of_not_mem (h line List.mem_cons_self),
      ih some_more fun l hl => h l (List.mem_cons_of_mem _ hl)]

theorem split_ne_nil (text : List Char) : split text ≠ [] := by
  rw [split]
  fun_induction cut '\n' text <;> simp

theorem newline_not_mem_of_mem_split {text line : List Char} (h : line ∈ split text) :
    '\n' ∉ line := by
  rw [split] at h
  fun_induction cut '\n' text generalizing line with
  | case1 => simp at h; simp [h]
  | case2 rest ih =>
    rcases List.mem_cons.1 h with rfl | h
    · simp
    · exact ih h
  | case3 c rest _ none_left ih => exact absurd none_left (split_ne_nil rest)
  | case4 c rest hc first others found ih =>
    rcases List.mem_cons.1 h with rfl | h
    · intro m
      rcases List.mem_cons.1 m with e | m
      · exact hc e.symm
      · exact ih (found ▸ List.mem_cons_self) m
    · exact ih (found ▸ List.mem_cons_of_mem _ h)

/-- The lines of a text give it back. -/
theorem join_split (text : List Char) : join (split text) = text := by
  rw [split]
  fun_induction cut '\n' text with
  | case1 => rfl
  | case2 rest ih =>
    have some_line : cut '\n' rest ≠ [] := split_ne_nil rest
    rw [join.eq_3 _ _ some_line, ih]
    rfl
  | case3 c rest _ none_left ih => exact absurd none_left (split_ne_nil rest)
  | case4 c rest hc first others found ih =>
    rw [found] at ih
    cases others with
    | nil => rw [← ih]; rfl
    | cons second others => rw [← ih]; rfl

theorem append_of_splitBlank? {text before after : List Char}
    (h : splitBlank? text = some (before, after)) : text = before ++ '\n' :: '\n' :: after := by
  fun_induction splitBlank? text generalizing before after with
  | case1 rest =>
    obtain ⟨rfl, rfl⟩ := Prod.mk.inj (Option.some.inj h)
    rfl
  | case2 c rest _ ih =>
    obtain ⟨⟨b, a⟩, found, eq⟩ := Option.map_eq_some_iff.1 h
    obtain ⟨rfl, rfl⟩ := Prod.mk.inj eq
    rw [List.cons_append, ← ih found]
  | case3 => cases h

/-- Only the first line before the first blank line can be empty, and only if the text starts with
a newline. -/
theorem lines_before_blank {text before after : List Char}
    (h : splitBlank? text = some (before, after)) :
    (∀ line ∈ (split before).tail, line ≠ []) ∧
      (text.head? ≠ some '\n' → ∀ line ∈ split before, line ≠ []) := by
  fun_induction splitBlank? text generalizing before after with
  | case1 rest =>
    obtain ⟨rfl, rfl⟩ := Prod.mk.inj (Option.some.inj h)
    refine ⟨by simp [split, cut], fun start => absurd rfl start⟩
  | case2 c rest not_blank ih =>
    obtain ⟨⟨b, a⟩, found, eq⟩ := Option.map_eq_some_iff.1 h
    obtain ⟨rfl, rfl⟩ := Prod.mk.inj eq
    obtain ⟨later, all⟩ := ih found
    by_cases hc : c = '\n'
    · have next : rest.head? ≠ some '\n' := by
        intro start
        obtain ⟨more, rfl⟩ := List.head?_eq_some_iff.1 start
        exact not_blank more hc rfl
      rw [split, cut, if_pos hc]
      exact ⟨all next, fun start => absurd (congrArg some hc) start⟩
    · rw [split, cut, if_neg hc]
      rw [split] at later
      cases lines : cut '\n' b with
      | nil => exact absurd lines (split_ne_nil b)
      | cons first others =>
        rw [lines] at later
        refine ⟨later, fun _ line hl => ?_⟩
        rcases List.mem_cons.1 hl with rfl | hl
        · exact List.cons_ne_nil _ _
        · exact later line hl
  | case3 => cases h

theorem splitBlank?_append_of_not_mem {line : List Char} (h : '\n' ∉ line) (rest : List Char) :
    splitBlank? (line ++ rest) =
      (splitBlank? rest).map fun cut => (line ++ cut.1, cut.2) := by
  induction line with
  | nil => simp
  | cons c line ih =>
    have hc : c ≠ '\n' := fun e => h (e ▸ List.mem_cons_self)
    have hl : '\n' ∉ line := fun m => h (List.mem_cons_of_mem _ m)
    rw [List.cons_append, splitBlank?.eq_2 _ _ fun more e => absurd e hc, ih hl, Option.map_map]
    rfl

theorem splitBlank?_newline {rest : List Char} (h : rest.head? ≠ some '\n') :
    splitBlank? ('\n' :: rest) = (splitBlank? rest).map fun cut => ('\n' :: cut.1, cut.2) := by
  refine splitBlank?.eq_2 _ _ fun more _ e => ?_
  subst e
  exact h rfl

theorem head?_join {lines : List (List Char)} (h : ∀ line ∈ lines, '\n' ∉ line ∧ line ≠ []) :
    (join lines).head? ≠ some '\n' := by
  have head_ne : ∀ line ∈ lines, ∀ rest, (line ++ rest).head? ≠ some '\n' := by
    intro line hl rest start
    obtain ⟨no_newline, ne⟩ := h line hl
    obtain ⟨c, tail, rfl⟩ := List.exists_cons_of_ne_nil ne
    exact no_newline ((Option.some.inj start) ▸ List.mem_cons_self)
  fun_induction join lines with
  | case1 => simp
  | case2 line => simpa using head_ne line List.mem_cons_self []
  | case3 line more some_more ih => exact head_ne line List.mem_cons_self _

/-- Lines that are not empty stay together, up to the blank line after them. -/
theorem splitBlank?_join {lines : List (List Char)} (some_line : lines ≠ [])
    (h : ∀ line ∈ lines, '\n' ∉ line ∧ line ≠ []) (after : List Char) :
    splitBlank? (join lines ++ '\n' :: '\n' :: after) = some (join lines, after) := by
  fun_induction join lines with
  | case1 => exact absurd rfl some_line
  | case2 line =>
    rw [splitBlank?_append_of_not_mem (h line List.mem_cons_self).1]
    simp [splitBlank?]
  | case3 line more some_more ih =>
    have hm : ∀ l ∈ more, '\n' ∉ l ∧ l ≠ [] := fun l hl => h l (List.mem_cons_of_mem _ hl)
    have start : (join more ++ '\n' :: '\n' :: after).head? ≠ some '\n' := by
      cases joined : join more with
      | nil =>
        obtain ⟨first, others, rfl⟩ := List.exists_cons_of_ne_nil some_more
        have ne := (hm first List.mem_cons_self).2
        cases others <;> simp_all [join]
      | cons c tail => simpa [joined] using head?_join hm
    rw [List.append_assoc, List.cons_append,
      splitBlank?_append_of_not_mem (h line List.mem_cons_self).1, splitBlank?_newline start,
      ih some_more hm]
    rfl

theorem splitBlank?_of_not_mem {line : List Char} (h : '\n' ∉ line) :
    splitBlank? (line ++ ['\n']) = none := by
  rw [splitBlank?_append_of_not_mem h]
  simp [splitBlank?]

/-- More text behind a text does not move its first blank line. -/
theorem splitBlank?_append {text before after : List Char}
    (h : splitBlank? text = some (before, after)) (rest : List Char) :
    splitBlank? (text ++ rest) = some (before, after ++ rest) := by
  fun_induction splitBlank? text generalizing before after with
  | case1 more =>
    cases h
    rfl
  | case2 c more not_blank ih =>
    obtain ⟨⟨front, behind⟩, found, eq⟩ := Option.map_eq_some_iff.1 h
    cases eq
    have still : ∀ x, c = '\n' → more ++ rest = '\n' :: x → False := by
      intro x newline start
      cases more with
      | nil => cases found
      | cons second more =>
        have second_eq : second = '\n' := (List.cons.inj start).1
        exact not_blank more newline (by rw [second_eq])
    rw [List.cons_append, splitBlank?.eq_2 _ _ still, ih found]
    rfl
  | case3 => cases h

/-- A blank line behind a text without one is its first, unless a newline at the end of the text
makes it start one character earlier. -/
theorem splitBlank?_append_blank {text : List Char} (h : splitBlank? text = none)
    (rest : List Char) :
    splitBlank? (text ++ '\n' :: '\n' :: rest) = some (text, rest) ∨
      ∃ front, text = front ++ ['\n'] ∧
        splitBlank? (text ++ '\n' :: '\n' :: rest) = some (front, '\n' :: rest) := by
  fun_induction splitBlank? text with
  | case1 more => cases h
  | case2 c more not_blank ih =>
    cases more with
    | nil =>
      by_cases newline : c = '\n'
      · exact .inr ⟨[], by rw [newline]; rfl, by rw [newline]; rfl⟩
      · left
        have one_line : '\n' ∉ [c] := by simpa using Ne.symm newline
        have step := splitBlank?_append_of_not_mem one_line ('\n' :: '\n' :: rest)
        simpa [splitBlank?] using step
    | cons second more =>
      have still : ∀ x, c = '\n' →
          (second :: more) ++ '\n' :: '\n' :: rest = '\n' :: x → False := by
        intro x newline start
        have second_eq : second = '\n' := (List.cons.inj start).1
        exact not_blank more newline (by rw [second_eq])
      rw [List.cons_append, splitBlank?.eq_2 _ _ still]
      rcases ih (Option.map_eq_none_iff.1 h) with cut | ⟨front, eq, cut⟩
      · left
        rw [cut]
        rfl
      · right
        refine ⟨c :: front, by rw [eq]; rfl, ?_⟩
        rw [cut]
        rfl
  | case3 => exact .inl rfl

/-! ### Newlines in front -/

theorem dropNewlines_of_head? {text : List Char} (h : text.head? ≠ some '\n') :
    dropNewlines text = text := by
  cases text with
  | nil => rfl
  | cons c rest =>
    have hc : c ≠ '\n' := fun e => h (congrArg some e)
    rw [dropNewlines, List.dropWhile_cons_of_neg (by simpa using hc)]

theorem head?_dropNewlines (text : List Char) : (dropNewlines text).head? ≠ some '\n' := by
  intro start
  have stop := List.head?_dropWhile_not (· == '\n') text
  rw [← dropNewlines, start] at stop
  simp at stop

/-- A text is newlines and then what is left without them. -/
theorem eq_append_dropNewlines (text : List Char) :
    ∃ newlines, (∀ c ∈ newlines, c = '\n') ∧ text = newlines ++ dropNewlines text :=
  ⟨text.takeWhile (· == '\n'),
    fun c hc => by simpa using List.all_eq_true.1 List.all_takeWhile c hc,
    List.takeWhile_append_dropWhile.symm⟩

theorem dropNewlines_append_dropNewlines (text rest : List Char) :
    dropNewlines (dropNewlines text ++ rest) = dropNewlines (text ++ rest) := by
  obtain ⟨newlines, only, eq⟩ := eq_append_dropNewlines text
  have dropped : ∀ c ∈ newlines, (c == '\n') = true := by
    intro c hc
    rw [only c hc]
    rfl
  conv => rhs; rw [eq, List.append_assoc, dropNewlines]
  exact (List.dropWhile_append_of_pos dropped).symm

end FleetIdentity.Lines
