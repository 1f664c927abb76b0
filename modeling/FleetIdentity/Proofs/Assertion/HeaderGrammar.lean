import FleetIdentity.Assertion.Header
import FleetIdentity.Proofs.Except
import FleetIdentity.Proofs.Text.Lines

/-!
# The grammar of header blocks

A block is read exactly if its lines can be cut into groups, one for each header, and no name starts
two of them. A group is a line with the name, a colon and a value; if the value is empty, lines of
list items may follow, or lines of text. The headers that are read are those of the groups.

The grammar knows nothing of the value that is still being read. What a refused block is refused for
is not described.
-/

namespace FleetIdentity.HeaderBlock

/-! ### The grammar -/

/-- A lower-case letter, then lower-case letters, digits and dashes. -/
def IsHeaderName (name : List Char) : Prop :=
  ∃ c rest, name = c :: rest ∧ ('a' ≤ c ∧ c ≤ 'z') ∧
    ∀ x ∈ rest, ('a' ≤ x ∧ x ≤ 'z') ∨ ('0' ≤ x ∧ x ≤ '9') ∨ x = '-'

/-- A value as it stands after the colon: one space in front of it may be left out. -/
def Spells (value text : List Char) : Prop :=
  value = ' ' :: text ∨ (value = text ∧ text.head? ≠ some ' ')

/-- The lines of one header. -/
inductive Group (name : String) : HeaderValue → List (List Char) → Prop where
  | inline {value text : List Char} (spelled : Spells value text) (ne : text ≠ []) :
      Group name (.text (String.ofList text)) [name.toList ++ ':' :: value]
  | empty {value : List Char} (spelled : Spells value []) :
      Group name (.text "") [name.toList ++ ':' :: value]
  | list {value : List Char} (spelled : Spells value []) {items : List (List Char)}
      (some_item : items ≠ []) :
      Group name (.list (items.map String.ofList))
        ((name.toList ++ ':' :: value) :: items.map ([' ', ' ', '-', ' '] ++ ·))
  | block {value : List Char} (spelled : Spells value []) {texts : List (List Char)}
      (some_line : texts ≠ []) (no_item : ∀ text ∈ texts, ¬ ['-', ' '] <+: text) :
      Group name (.text (String.ofList (Lines.join texts)))
        ((name.toList ++ ':' :: value) :: texts.map ([' ', ' '] ++ ·))

/-- The lines of several headers, one group after the other. -/
inductive Groups : List (String × HeaderValue) → List (List Char) → Prop where
  | nil : Groups [] []
  | cons {name : String} {value : HeaderValue} {lines : List (List Char)}
      {entries : List (String × HeaderValue)} {more : List (List Char)}
      (named : IsHeaderName name.toList) (group : Group name value lines)
      (later : Groups entries more) : Groups ((name, value) :: entries) (lines ++ more)

theorem isName_iff {name : List Char} : isName name = true ↔ IsHeaderName name := by
  cases name with
  | nil => simp [isName, IsHeaderName]
  | cons c rest =>
    simp only [isName, isNameStart, isNameChar, Bool.and_eq_true, Bool.or_eq_true,
      List.all_eq_true, decide_eq_true_eq, beq_iff_eq, or_assoc]
    constructor
    · intro h
      exact ⟨c, rest, rfl, h⟩
    · rintro ⟨_, _, eq, h⟩
      cases eq
      exact h

theorem dropSpace_eq_iff {value text : List Char} : dropSpace value = text ↔ Spells value text := by
  unfold dropSpace Spells
  split
  · next rest =>
    constructor
    · intro h
      subst h
      exact .inl rfl
    · intro h
      rcases h with h | ⟨h, start⟩
      · exact (List.cons.inj h).2
      · subst h
        simp at start
  · next other =>
    constructor
    · intro h
      subst h
      refine .inr ⟨rfl, fun start => ?_⟩
      obtain ⟨rest, eq⟩ := List.head?_eq_some_iff.1 start
      exact other rest eq
    · intro h
      rcases h with h | ⟨h, _⟩
      · exact absurd h (other text)
      · exact h

/-! ### Names and lines -/

theorem Group.start {name : String} {value : HeaderValue} {lines : List (List Char)}
    (group : Group name value lines) :
    ∃ rest more, lines = (name.toList ++ ':' :: rest) :: more := by
  cases group <;> exact ⟨_, _, rfl⟩

theorem Group.ne_nil {name : String} {value : HeaderValue} {lines : List (List Char)}
    (group : Group name value lines) : ∀ line ∈ lines, line ≠ [] := by
  cases group <;> simp

theorem not_mem_of_isHeaderName {name : List Char} (named : IsHeaderName name) {c : Char}
    (hc : isNameChar c = false) : c ∉ name := by
  intro mem
  obtain ⟨first, rest, rfl, start, more⟩ := named
  have allowed : isNameChar c = true := by
    rcases List.mem_cons.1 mem with rfl | mem
    · simp [isNameChar, isNameStart, start]
    · simpa [isNameChar, isNameStart, or_assoc] using more c mem
  rw [hc] at allowed
  cases allowed

theorem splitColon?_append {name : List Char} (h : ':' ∉ name) (value : List Char) :
    splitColon? (name ++ ':' :: value) = some (name, value) := by
  induction name with
  | nil => rfl
  | cons c name ih =>
    have hc : c ≠ ':' := fun e => h (e ▸ List.mem_cons_self)
    have hn : ':' ∉ name := fun m => h (List.mem_cons_of_mem _ m)
    rw [List.cons_append, splitColon?, if_neg hc, ih hn]
    rfl

theorem append_of_splitColon? {line name value : List Char}
    (h : splitColon? line = some (name, value)) : line = name ++ ':' :: value := by
  induction line generalizing name with
  | nil => cases h
  | cons c line ih =>
    rw [splitColon?] at h
    split at h
    · next hc =>
      cases h
      rw [hc]
      rfl
    · obtain ⟨⟨before, after⟩, found, eq⟩ := Option.map_eq_some_iff.1 h
      cases eq
      rw [List.cons_append, ← ih found]

theorem ofChars_of_head {c : Char} (h : c ≠ ' ') (rest : List Char) :
    Line.ofChars (c :: rest) = .field (c :: rest) := by
  refine Line.ofChars.eq_3 _ ?_ ?_
  · intro text e
    exact h (List.cons.inj e).1
  · intro text e
    exact h (List.cons.inj e).1

theorem ofChars_continuation {text : List Char} (h : ¬ ['-', ' '] <+: text) :
    Line.ofChars (' ' :: ' ' :: text) = .continuation text := by
  refine Line.ofChars.eq_2 _ ?_
  intro rest e
  exact h ⟨rest, e.symm⟩

/-- A line is a list item, a line of text or the start of a header. -/
theorem ofChars_cases (line : List Char) :
    (∃ text, line = [' ', ' ', '-', ' '] ++ text ∧ Line.ofChars line = .item text) ∨
      (∃ text, line = [' ', ' '] ++ text ∧ ¬ ['-', ' '] <+: text ∧
        Line.ofChars line = .continuation text) ∨
      Line.ofChars line = .field line := by
  unfold Line.ofChars
  split
  · next text => exact .inl ⟨text, rfl, rfl⟩
  · next text no_item =>
    refine .inr (.inl ⟨text, rfl, ?_, rfl⟩)
    intro start
    obtain ⟨rest, eq⟩ := start
    exact no_item rest eq.symm
  · exact .inr (.inr rfl)

/-! ### Groups are read whole -/

theorem readLines_name {name : String} {value text : List Char} (named : IsHeaderName name.toList)
    (spelled : Spells value text) (headers : Headers) (current : Option (String × Pending))
    (rest : List (List Char)) :
    readLines headers current ((name.toList ++ ':' :: value) :: rest) =
      close headers current >>= fun hs => readLines hs (some (name,
        match text with
        | [] => .empty
        | text => .inline text)) rest := by
  have kind : Line.ofChars (name.toList ++ ':' :: value) =
      .field (name.toList ++ ':' :: value) := by
    have not_space := not_mem_of_isHeaderName named (c := ' ') (by decide)
    obtain ⟨c, tail, chars, _⟩ := named
    rw [chars] at not_space ⊢
    apply ofChars_of_head
    intro e
    exact not_space (e ▸ List.mem_cons_self)
  have cut := splitColon?_append (not_mem_of_isHeaderName named (by decide)) value
  have start : field (name.toList ++ ':' :: value) = .ok (name,
      match text with
      | [] => .empty
      | text => .inline text) := by
    rw [field, cut]
    dsimp only
    rw [if_pos (isName_iff.2 named), String.ofList_toList, dropSpace_eq_iff.2 spelled]
    cases text with
    | nil => rfl
    | cons c text => rfl
  rw [readLines, kind]
  dsimp only
  rw [start]
  rfl

theorem readLines_items (headers : Headers) (name : String) (items before rest : List (List Char)) :
    readLines headers (some (name, .items before))
        (items.map ([' ', ' ', '-', ' '] ++ ·) ++ rest) =
      readLines headers (some (name, .items (before ++ items))) rest := by
  induction items generalizing before with
  | nil => rw [List.map_nil, List.nil_append, List.append_nil]
  | cons item items ih =>
    have later := ih (before ++ [item])
    rw [List.append_assoc, List.singleton_append] at later
    rw [List.map_cons, ← later]
    rfl

theorem readLines_continuations (headers : Headers) (name : String) {texts : List (List Char)}
    (no_item : ∀ text ∈ texts, ¬ ['-', ' '] <+: text) (before rest : List (List Char)) :
    readLines headers (some (name, .block before)) (texts.map ([' ', ' '] ++ ·) ++ rest) =
      readLines headers (some (name, .block (before ++ texts))) rest := by
  induction texts generalizing before with
  | nil => rw [List.map_nil, List.nil_append, List.append_nil]
  | cons text texts ih =>
    have kind := ofChars_continuation (no_item text List.mem_cons_self)
    have later := ih (fun t ht => no_item t (List.mem_cons_of_mem _ ht)) (before ++ [text])
    rw [List.append_assoc, List.singleton_append] at later
    rw [← later, List.map_cons, List.cons_append, List.cons_append, List.cons_append,
      List.nil_append, readLines, kind]
    rfl

/-- A group closes the header before it and is then read whole, as its value. -/
theorem readLines_group {name : String} {value : HeaderValue} {lines : List (List Char)}
    (named : IsHeaderName name.toList) (group : Group name value lines) :
    ∃ p : Pending, p.value = value ∧ ∀ headers current rest,
      readLines headers current (lines ++ rest) =
        close headers current >>= fun hs => readLines hs (some (name, p)) rest := by
  cases group with
  | @inline value text spelled ne =>
    refine ⟨.inline text, rfl, ?_⟩
    intro headers current rest
    rw [List.singleton_append, readLines_name named spelled]
    cases text with
    | nil => exact absurd rfl ne
    | cons c text => rfl
  | empty spelled =>
    refine ⟨.empty, rfl, ?_⟩
    intro headers current rest
    rw [List.singleton_append, readLines_name named spelled]
  | @list value spelled items some_item =>
    refine ⟨.items items, rfl, ?_⟩
    intro headers current rest
    rw [List.cons_append, readLines_name named spelled]
    congr 1
    funext hs
    obtain ⟨first, others, rfl⟩ := List.exists_cons_of_ne_nil some_item
    have later := readLines_items hs name others [first] rest
    rw [List.singleton_append] at later
    rw [List.map_cons, ← later]
    rfl
  | @block value spelled texts some_line no_item =>
    refine ⟨.block texts, rfl, ?_⟩
    intro headers current rest
    rw [List.cons_append, readLines_name named spelled]
    congr 1
    funext hs
    obtain ⟨first, others, rfl⟩ := List.exists_cons_of_ne_nil some_line
    have kind := ofChars_continuation (no_item first List.mem_cons_self)
    have later := readLines_continuations hs name
      (fun t ht => no_item t (List.mem_cons_of_mem _ ht)) [first] rest
    rw [List.singleton_append] at later
    rw [← later, List.map_cons, List.cons_append, List.cons_append, List.cons_append,
      List.nil_append, readLines, kind]
    rfl

/-- The headers with several more, one after the other. -/
def collect (headers : Headers) : List (String × HeaderValue) → Except HeaderFault Headers
  | [] => .ok headers
  | (name, value) :: rest =>
    if headers.contains name then .error (.repeated name)
    else collect (headers.insert name value) rest

theorem readLines_groups {entries : List (String × HeaderValue)} {lines : List (List Char)}
    (h : Groups entries lines) (headers : Headers) (current : Option (String × Pending)) :
    readLines headers current lines = close headers current >>= fun hs => collect hs entries := by
  -- What was being read is closed by the first line that follows, whatever it was.
  induction h generalizing headers current with
  | nil =>
    rw [readLines]
    cases close headers current <;> rfl
  | @cons name value lines entries more named group later ih =>
    obtain ⟨p, value_eq, read⟩ := readLines_group named group
    rw [read]
    congr 1
    funext hs
    rw [ih hs (some (name, p)), close, collect]
    cases hs.contains name with
    | true => rfl
    | false =>
      rw [value_eq]
      rfl

/-! ### What was read is cut into groups -/

/-- The next line, if there is one, starts a header. -/
def FieldNext : List (List Char) → Prop
  | [] => True
  | line :: _ => Line.ofChars line = .field line

theorem readLines_fieldNext {lines : List (List Char)} (next : FieldNext lines) (headers : Headers)
    (current : Option (String × Pending)) :
    readLines headers current lines =
      close headers current >>= fun hs => readLines hs none lines := by
  cases lines with
  | nil =>
    rw [readLines]
    cases close headers current <;> rfl
  | cons line rest =>
    have kind : Line.ofChars line = .field line := next
    rw [readLines, kind]
    dsimp only
    congr 1
    funext hs
    rw [readLines, kind]
    rfl

theorem items_of_readLines {headers read : Headers} {name : String}
    {before lines : List (List Char)}
    (h : readLines headers (some (name, .items before)) lines = .ok read) :
    ∃ items later, lines = items.map ([' ', ' ', '-', ' '] ++ ·) ++ later ∧ FieldNext later ∧
      readLines headers (some (name, .items (before ++ items))) later = .ok read := by
  induction lines generalizing before with
  | nil => exact ⟨[], [], rfl, trivial, by rwa [List.append_nil]⟩
  | cons line lines ih =>
    rcases ofChars_cases line with ⟨item, rfl, kind⟩ | ⟨text, rfl, _, kind⟩ | kind
    · rw [readLines, kind] at h
      obtain ⟨items, later, rfl, next, rest⟩ := ih h
      refine ⟨item :: items, later, rfl, next, ?_⟩
      rwa [List.append_assoc] at rest
    · rw [readLines, kind] at h
      cases h
    · exact ⟨[], line :: lines, rfl, kind, by rwa [List.append_nil]⟩

theorem texts_of_readLines {headers read : Headers} {name : String}
    {before lines : List (List Char)}
    (h : readLines headers (some (name, .block before)) lines = .ok read) :
    ∃ texts later, lines = texts.map ([' ', ' '] ++ ·) ++ later ∧
      (∀ text ∈ texts, ¬ ['-', ' '] <+: text) ∧ FieldNext later ∧
      readLines headers (some (name, .block (before ++ texts))) later = .ok read := by
  induction lines generalizing before with
  | nil => exact ⟨[], [], rfl, nofun, trivial, by rwa [List.append_nil]⟩
  | cons line lines ih =>
    rcases ofChars_cases line with ⟨item, rfl, kind⟩ | ⟨text, rfl, no_item, kind⟩ | kind
    · rw [readLines, kind] at h
      cases h
    · rw [readLines, kind] at h
      obtain ⟨texts, later, rfl, no_items, next, rest⟩ := ih h
      refine ⟨text :: texts, later, rfl, ?_, next, ?_⟩
      · intro t ht
        rcases List.mem_cons.1 ht with rfl | ht
        · exact no_item
        · exact no_items t ht
      · rwa [List.append_assoc] at rest
    · exact ⟨[], line :: lines, rfl, nofun, kind, by rwa [List.append_nil]⟩

theorem field_eq_ok {line : List Char} {name : String} {p : Pending}
    (h : field line = .ok (name, p)) : IsHeaderName name.toList ∧ ∃ value text,
      line = name.toList ++ ':' :: value ∧ Spells value text ∧
        ((text = [] ∧ p = .empty) ∨ (text ≠ [] ∧ p = .inline text)) := by
  unfold field at h
  split at h
  · cases h
  next chars value cut =>
  split at h
  · next named =>
    have line_eq := append_of_splitColon? cut
    split at h
    · next blank =>
      cases h
      rw [String.toList_ofList]
      exact ⟨isName_iff.1 named, value, [], line_eq, dropSpace_eq_iff.1 blank, .inl ⟨rfl, rfl⟩⟩
    · next ne =>
      cases h
      rw [String.toList_ofList]
      exact ⟨isName_iff.1 named, value, _, line_eq, dropSpace_eq_iff.1 rfl, .inr ⟨ne, rfl⟩⟩
  · cases h

/-- After the start of a header come the other lines of its group, and then another header. -/
theorem group_of_readLines {headers read : Headers} {name : String} {p : Pending}
    {line : List Char} {lines : List (List Char)} (start : field line = .ok (name, p))
    (h : readLines headers (some (name, p)) lines = .ok read) :
    ∃ q more later, lines = more ++ later ∧ Group name q.value (line :: more) ∧
      FieldNext later ∧ readLines headers (some (name, q)) later = .ok read := by
  obtain ⟨_, value, text, rfl, spelled, ⟨rfl, rfl⟩ | ⟨ne, rfl⟩⟩ := field_eq_ok start
  · cases lines with
    | nil => exact ⟨.empty, [], [], rfl, .empty spelled, trivial, h⟩
    | cons next lines =>
      rcases ofChars_cases next with ⟨item, rfl, kind⟩ | ⟨text, rfl, no_item, kind⟩ | kind
      · rw [readLines, kind] at h
        obtain ⟨items, later, rfl, field_next, rest⟩ := items_of_readLines h
        exact ⟨_, ([item] ++ items).map ([' ', ' ', '-', ' '] ++ ·), later, rfl,
          .list spelled (List.cons_ne_nil _ _), field_next, rest⟩
      · rw [readLines, kind] at h
        obtain ⟨texts, later, rfl, no_items, field_next, rest⟩ := texts_of_readLines h
        refine ⟨_, ([text] ++ texts).map ([' ', ' '] ++ ·), later, rfl,
          .block spelled (List.cons_ne_nil _ _) ?_, field_next, rest⟩
        intro t ht
        rcases List.mem_cons.1 ht with rfl | ht
        · exact no_item
        · exact no_items t ht
      · exact ⟨.empty, [], next :: lines, rfl, .empty spelled, kind, h⟩
  · cases lines with
    | nil => exact ⟨.inline text, [], [], rfl, .inline spelled ne, trivial, h⟩
    | cons next lines =>
      rcases ofChars_cases next with ⟨item, rfl, kind⟩ | ⟨text, rfl, _, kind⟩ | kind
      · rw [readLines, kind] at h
        cases h
      · rw [readLines, kind] at h
        cases h
      · exact ⟨.inline _, [], next :: lines, rfl, .inline spelled ne, kind, h⟩

theorem close_eq_ok {headers closed : Headers} {name : String} {p : Pending}
    (h : close headers (some (name, p)) = .ok closed) :
    headers.contains name = false ∧ closed = headers.insert name p.value := by
  rw [close] at h
  split at h
  · cases h
  · next free =>
    cases h
    exact ⟨by simpa using free, rfl⟩

theorem groups_of_readLines {headers read : Headers} {lines : List (List Char)}
    (h : readLines headers none lines = .ok read) :
    ∃ entries, Groups entries lines ∧ collect headers entries = .ok read := by
  -- A group takes several lines at once, so that the induction is on how many there are.
  induction length : lines.length using Nat.strongRecOn generalizing headers lines with
  | ind n ih =>
    cases lines with
    | nil =>
      cases h
      exact ⟨[], .nil, rfl⟩
    | cons line lines =>
      rcases ofChars_cases line with ⟨item, rfl, kind⟩ | ⟨text, rfl, _, kind⟩ | kind
      · rw [readLines, kind] at h
        cases h
      · rw [readLines, kind] at h
        cases h
      rw [readLines, kind] at h
      obtain ⟨_, same, h⟩ := bind_eq_ok_iff.1 h
      cases same
      obtain ⟨⟨name, p⟩, start, h⟩ := bind_eq_ok_iff.1 h
      obtain ⟨q, more, later, rfl, group, next, h⟩ := group_of_readLines start h
      rw [readLines_fieldNext next] at h
      obtain ⟨closed, closes, h⟩ := bind_eq_ok_iff.1 h
      obtain ⟨free, rfl⟩ := close_eq_ok closes
      have shorter : later.length < n := by
        rw [← length, List.length_cons, List.length_append]
        omega
      obtain ⟨entries, groups, collected⟩ := ih _ shorter h rfl
      refine ⟨(name, q.value) :: entries, .cons (field_eq_ok start).1 group groups, ?_⟩
      rw [collect, if_neg (by simp [free])]
      exact collected

/-! ### Collected headers -/

theorem contains_insert {headers : Headers} {name other : String} {value : HeaderValue} :
    (headers.insert name value).contains other = true ↔
      other = name ∨ headers.contains other = true := by
  rw [Dictionary.contains, Dictionary.get?_insert]
  by_cases same : other = name
  · simp [same]
  · rw [if_neg same]
    simp [same, Dictionary.contains]

theorem collect_ok_iff {headers : Headers} {entries : List (String × HeaderValue)} :
    (∃ collected, collect headers entries = .ok collected) ↔
      (entries.map (·.1)).Nodup ∧ ∀ name ∈ entries.map (·.1), headers.contains name = false := by
  induction entries generalizing headers with
  | nil => simp [collect]
  | cons entry entries ih =>
    obtain ⟨name, value⟩ := entry
    rw [collect, List.map_cons, List.nodup_cons]
    by_cases taken : headers.contains name = true
    · rw [if_pos taken]
      constructor
      · rintro ⟨collected, h⟩
        cases h
      · rintro ⟨_, free⟩
        have := free name List.mem_cons_self
        rw [taken] at this
        cases this
    · rw [if_neg taken, ih]
      have step : ∀ other, (headers.insert name value).contains other = false ↔
          other ≠ name ∧ headers.contains other = false := by
        intro other
        rw [← Bool.not_eq_true, contains_insert, not_or, Bool.not_eq_true]
      simp only [step, List.mem_cons, forall_eq_or_imp]
      constructor
      · rintro ⟨nodup, free⟩
        exact ⟨⟨fun m => (free name m).1 rfl, nodup⟩, by simpa using taken,
          fun other ho => (free other ho).2⟩
      · rintro ⟨⟨new, nodup⟩, _, free⟩
        exact ⟨nodup, fun other ho => ⟨fun e => new (e ▸ ho), free other ho⟩⟩

theorem get?_collect {headers collected : Headers} {entries : List (String × HeaderValue)}
    (h : collect headers entries = .ok collected) (name : String) (value : HeaderValue) :
    collected.get? name = some value ↔
      headers.get? name = some value ∨ (name, value) ∈ entries := by
  induction entries generalizing headers with
  | nil =>
    cases h
    simp
  | cons entry entries ih =>
    obtain ⟨first, given⟩ := entry
    rw [collect] at h
    split at h
    · cases h
    next free =>
      rw [ih h, Dictionary.get?_insert, List.mem_cons]
      by_cases same : name = first
      · subst same
        have absent : headers.get? name = none := by
          simpa [Dictionary.contains] using free
        simp [absent, eq_comm]
      · simp [same]

theorem parse_groups {block : List Char} {entries : List (String × HeaderValue)}
    (h : Groups entries (Lines.split block)) :
    parse block = collect Dictionary.empty entries := by
  rw [parse, readLines_groups h]
  rfl

/-- The entries of a cut are those of the headers, if there are no others. -/
theorem get?_of_groups {block : List Char} {headers : Headers}
    {entries : List (String × HeaderValue)} (groups : Groups entries (Lines.split block))
    (h : parse block = .ok headers) (name : String) (value : HeaderValue) :
    headers.get? name = some value ↔ (name, value) ∈ entries := by
  rw [parse_groups groups] at h
  rw [get?_collect h, Dictionary.get?_empty]
  simp

/-- A block is read exactly if its lines are cut into the groups of headers with distinct names, and
what is read are these headers and no others. -/
theorem parse_eq_ok_iff {block : List Char} {headers : Headers} :
    parse block = .ok headers ↔ ∃ entries, Groups entries (Lines.split block) ∧
      (entries.map (·.1)).Nodup ∧
      ∀ name value, headers.get? name = some value ↔ (name, value) ∈ entries := by
  constructor
  · intro h
    obtain ⟨entries, groups, collected⟩ := groups_of_readLines h
    exact ⟨entries, groups, (collect_ok_iff.1 ⟨headers, collected⟩).1, get?_of_groups groups h⟩
  · rintro ⟨entries, groups, nodup, listed⟩
    obtain ⟨collected, eq⟩ :=
      (@collect_ok_iff Dictionary.empty entries).2 ⟨nodup, fun name _ => rfl⟩
    have read : parse block = .ok collected := (parse_groups groups).trans eq
    have same : headers = collected := by
      apply Dictionary.eq_of_get?
      intro name
      apply Option.ext
      intro value
      rw [listed, get?_of_groups groups read]
    rw [read, same]

end FleetIdentity.HeaderBlock
