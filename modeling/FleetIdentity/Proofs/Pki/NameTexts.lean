import FleetIdentity.Proofs.Pki.NameTypes

/-!
# What the text of a name tells of it

The text of a name puts types and values after one another and escapes nothing. It is taken apart
here into pieces: an attribute with what separates it from the attribute before it. As long as no
value holds what looks like a further attribute, no two names have the same pieces in one text.
-/

namespace FleetIdentity

/-! ### Sets and marks -/

namespace DistinguishedName

variable {α β : Type}

/-- The attributes of a set, the first of which opens it. -/
def marked : List α → List (Bool × α)
  | [] => []
  | a :: more => (true, a) :: more.map (false, ·)

theorem snd_mem_of_mem_marked {set : List α} {p : Bool × α} (mem : p ∈ marked set) :
    p.2 ∈ set := by
  cases set with
  | nil => cases mem
  | cons a more =>
    rcases List.mem_cons.1 mem with rfl | later
    · exact List.mem_cons_self
    · obtain ⟨b, mem_more, rfl⟩ := List.mem_map.1 later
      exact List.mem_cons_of_mem _ mem_more

/-- The attributes of all sets after one another. -/
def pieces (sets : List (List α)) : List (Bool × α) :=
  sets.flatMap marked

/-- The attributes before the first that opens a set, and the sets from there on. -/
def gather : List (Bool × α) → List α × List (List α)
  | [] => ([], [])
  | (true, a) :: rest => ([], (a :: (gather rest).1) :: (gather rest).2)
  | (false, a) :: rest => (a :: (gather rest).1, (gather rest).2)

theorem gather_marked (more : List α) (rest : List (Bool × α)) :
    gather (more.map (false, ·) ++ rest) = (more ++ (gather rest).1, (gather rest).2) := by
  induction more with
  | nil => rfl
  | cons a more ih => rw [List.map_cons, List.cons_append, gather, ih]; rfl

/-- Sets that are not empty are known from their attributes and marks. -/
theorem gather_pieces {sets : List (List α)} (ne_nil : ∀ set ∈ sets, set ≠ []) :
    gather (pieces sets) = ([], sets) := by
  induction sets with
  | nil => rfl
  | cons set sets ih =>
    cases set with
    | nil => exact absurd rfl (ne_nil [] List.mem_cons_self)
    | cons a more =>
      have later := ih fun s mem => ne_nil s (List.mem_cons_of_mem _ mem)
      rw [pieces, List.flatMap_cons, marked, List.cons_append, gather, gather_marked,
        ← pieces, later, List.append_nil]

theorem pieces_gather (ps : List (Bool × α)) :
    (gather ps).1.map (false, ·) ++ pieces (gather ps).2 = ps := by
  induction ps with
  | nil => rfl
  | cons p ps ih =>
    obtain ⟨_ | _, a⟩ := p
    · rw [gather, List.map_cons, List.cons_append, ih]
    · rw [gather, List.map_nil, List.nil_append, pieces, List.flatMap_cons, ← pieces, marked,
        List.cons_append, ih]

theorem ne_nil_of_mem_gather {ps : List (Bool × α)} : ∀ set ∈ (gather ps).2, set ≠ [] := by
  induction ps with
  | nil => exact nofun
  | cons p ps ih =>
    obtain ⟨_ | _, a⟩ := p
    · exact ih
    · exact List.forall_mem_cons.2 ⟨List.cons_ne_nil _ _, ih⟩

theorem pieces_map (f : α → β) (sets : List (List α)) :
    pieces (sets.map (·.map f)) = (pieces sets).map fun p => (p.1, f p.2) := by
  rw [pieces, pieces, List.flatMap_map, List.map_flatMap]
  refine List.flatMap_congr fun set _ => ?_
  cases set with
  | nil => rfl
  | cons a more => simp [marked]

theorem length_pieces (sets : List (List α)) : (pieces sets).length = sets.flatten.length := by
  rw [pieces, List.length_flatMap, List.length_flatten]
  refine congrArg List.sum (List.map_congr_left fun set _ => ?_)
  cases set <;> simp [marked]

theorem pieces_injective {sets sets' : List (List α)} (ne_nil : ∀ set ∈ sets, set ≠ [])
    (ne_nil' : ∀ set ∈ sets', set ≠ []) (same : pieces sets = pieces sets') : sets = sets' := by
  have known := gather_pieces ne_nil
  rw [same, gather_pieces ne_nil'] at known
  exact (Prod.mk.inj known).2.symm

/-- The pieces of sets start with one that opens a set. -/
theorem opens_of_pieces (sets : List (List α)) : ∀ p ∈ (pieces sets).head?, p.1 = true := by
  induction sets with
  | nil => exact nofun
  | cons set sets ih =>
    cases set with
    | nil => exact ih
    | cons a more =>
      rintro p first
      cases first
      rfl

/-- Attributes and marks make sets if the first one opens a set. -/
theorem pieces_snd_gather {ps : List (Bool × α)} (opens : ∀ p ∈ ps.head?, p.1 = true) :
    pieces (gather ps).2 = ps := by
  have whole := pieces_gather ps
  cases ps with
  | nil => rfl
  | cons p ps =>
    obtain ⟨_ | _, a⟩ := p
    · cases opens _ rfl
    · exact whole

theorem exists_mem_pieces {sets : List (List α)} {set : List α} {a : α} (mem : set ∈ sets)
    (mem_set : a ∈ set) : ∃ opens, (opens, a) ∈ pieces sets := by
  have marks : ∃ opens, (opens, a) ∈ marked set := by
    cases set with
    | nil => cases mem_set
    | cons b more =>
      rcases List.mem_cons.1 mem_set with rfl | later
      · exact ⟨true, List.mem_cons_self⟩
      · exact ⟨false, List.mem_cons_of_mem _ (List.mem_map_of_mem later)⟩
  obtain ⟨opens, mem_marked⟩ := marks
  exact ⟨opens, List.mem_flatMap.2 ⟨set, mem, mem_marked⟩⟩

end DistinguishedName

/-! ### Pieces of a text -/

open DistinguishedName NameAttribute

/-- What stands between two attributes: another text between two sets than within one. -/
def separator : (opens : Bool) → List Char
  | true => [',', ' ']
  | false => [' ', '+', ' ']

/-- A separator, a type and the sign between a type and its value. -/
def mark (opens : Bool) (type : Oid) : List Char :=
  separator opens ++ ((typeName type).toList ++ ['='])

/-- An attribute with the separator in front of it. -/
def pieceText (p : Bool × Oid × String) : List Char :=
  mark p.1 p.2.1 ++ p.2.2.toList

/-- The value looks as if it held a further attribute. -/
def HidesAttribute (value : String) : Prop :=
  ∃ opens type, mark opens type <:+: value.toList

theorem not_hidesAttribute_of_no_equals {value : String} (none : '=' ∉ value.toList) :
    ¬ HidesAttribute value := by
  rintro ⟨opens, type, infix_value⟩
  exact none (infix_value.subset (by simp [mark]))

/-- A type is told from what follows it: the text in front of something that is no part of a type
holds all of it. -/
theorem type_prefix {type before after rest : List Char}
    (plain : ∀ c ∈ type, isTypeChar c = true)
    (stops : ∀ c ∈ after.head?, isTypeChar c = false ∧ c ≠ '=')
    (same : before ++ after = type ++ '=' :: rest) : (type ++ ['=']) <+: before := by
  induction type generalizing before with
  | nil =>
    cases before with
    | nil =>
      rw [List.nil_append] at same
      subst same
      exact absurd rfl (stops '=' rfl).2
    | cons b before =>
      obtain ⟨rfl, -⟩ := List.cons.inj same
      exact ⟨before, rfl⟩
  | cons c type ih =>
    cases before with
    | nil =>
      rw [List.nil_append] at same
      subst same
      have kind := (stops c rfl).1
      rw [plain c List.mem_cons_self] at kind
      cases kind
    | cons b before =>
      obtain ⟨rfl, later⟩ := List.cons.inj same
      have found := ih (fun d mem => plain d (List.mem_cons_of_mem _ mem)) later
      exact (List.prefix_cons_inj b).2 found

/-- What comes after a value: another mark, or nothing. -/
def StartsMark (text : List Char) : Prop :=
  text = [] ∨ ∃ opens type, mark opens type <+: text

namespace StartsMark

theorem first {text : List Char} (starts : StartsMark text) :
    ∀ c ∈ text.head?, c = ' ' ∨ c = ',' := by
  rintro c first
  rcases starts with rfl | ⟨_ | _, type, rest, rfl⟩
  · cases first
  · cases first
    exact .inl rfl
  · cases first
    exact .inr rfl

theorem stops {text : List Char} (starts : StartsMark text) :
    ∀ c ∈ text.head?, isTypeChar c = false ∧ c ≠ '=' := by
  intro c mem
  rcases starts.first c mem with rfl | rfl <;> decide

/-- No mark starts with a blank and a type. -/
theorem ne_type {type : Oid} {rest : List Char}
    (starts : StartsMark (' ' :: ((typeName type).toList ++ '=' :: rest))) : False := by
  rcases starts with none | ⟨_ | _, other, later, same⟩
  · cases none
  · -- A plus sign would start the type, or be the sign after it.
    have plus := (List.cons.inj same).2
    cases chars : (typeName type).toList with
    | nil =>
      rw [chars] at plus
      cases plus
    | cons c chars' =>
      rw [chars] at plus
      obtain ⟨rfl, -⟩ := List.cons.inj plus
      have inside : '+' ∈ (typeName type).toList := by simp [chars]
      have kind := isTypeChar_of_mem_typeName inside
      cases kind
  · cases same

end StartsMark

/-- Marks do not overlap: if a text goes on with a mark from its front and, further on, with another
mark or not at all, the first mark is within what is in front of the other. -/
theorem mark_prefix {opens : Bool} {type : Oid} {before after rest : List Char}
    (some_text : before ≠ []) (follows : StartsMark after)
    (same : before ++ after = mark opens type ++ rest) : mark opens type <+: before := by
  have of_type {front : List Char}
      (later : front ++ after = (typeName type).toList ++ '=' :: rest) :
      ((typeName type).toList ++ ['=']) <+: front :=
    type_prefix (fun _ mem => isTypeChar_of_mem_typeName mem) follows.stops later
  obtain ⟨b, before, rfl⟩ := List.exists_cons_of_ne_nil some_text
  cases opens with
  | true =>
    simp only [mark, separator, List.cons_append, List.nil_append, List.append_assoc] at same ⊢
    obtain ⟨rfl, same₁⟩ := List.cons.inj same
    cases before with
    | nil =>
      rw [List.nil_append] at same₁
      subst same₁
      exact follows.ne_type.elim
    | cons c before =>
      obtain ⟨rfl, same₂⟩ := List.cons.inj same₁
      exact (List.prefix_cons_inj _).2 ((List.prefix_cons_inj _).2 (of_type same₂))
  | false =>
    simp only [mark, separator, List.cons_append, List.nil_append, List.append_assoc] at same ⊢
    obtain ⟨rfl, same₁⟩ := List.cons.inj same
    cases before with
    | nil =>
      rw [List.nil_append] at same₁
      subst same₁
      exact absurd (follows.first '+' rfl) (by decide)
    | cons c before =>
      obtain ⟨rfl, same₂⟩ := List.cons.inj same₁
      cases before with
      | nil =>
        change after = _ at same₂
        subst same₂
        exact follows.ne_type.elim
      | cons d before =>
        obtain ⟨rfl, same₃⟩ := List.cons.inj same₂
        exact (List.prefix_cons_inj _).2
          ((List.prefix_cons_inj _).2 ((List.prefix_cons_inj _).2 (of_type same₃)))

/-! ### Texts are taken apart in one way -/

/-- A value that hides no attribute ends where the next mark starts, and nowhere else. -/
theorem value_of_append {value value' rest rest' : List Char}
    (plain : ∀ opens type, ¬ mark opens type <:+: value)
    (plain' : ∀ opens type, ¬ mark opens type <:+: value')
    (starts : StartsMark rest) (starts' : StartsMark rest')
    (same : value ++ rest = value' ++ rest') : value = value' ∧ rest = rest' := by
  -- If one value went on after the other, what it goes on with would be a mark or start one.
  have no_more {front more after whole : List Char}
      (plain : ∀ opens type, ¬ mark opens type <:+: front ++ more) (follows : StartsMark after)
      (starts : StartsMark whole) (split : whole = more ++ after) : more = [] := by
    by_contra some_text
    rcases starts with rfl | ⟨opens, type, later, rfl⟩
    · exact some_text (List.append_eq_nil_iff.1 split.symm).1
    · have within := mark_prefix some_text follows split.symm
      exact plain opens type (within.isInfix.trans (List.suffix_append front more).isInfix)
  rcases List.append_eq_append_iff.1 same with ⟨more, rfl, split⟩ | ⟨more, rfl, split⟩
  · obtain rfl := no_more plain' starts' starts split
    exact ⟨(List.append_nil value).symm, split⟩
  · obtain rfl := no_more plain starts starts' split
    exact ⟨List.append_nil value', split.symm⟩

theorem startsMark_flatMap (ps : List (Bool × Oid × String)) :
    StartsMark (ps.flatMap pieceText) := by
  cases ps with
  | nil => exact .inl rfl
  | cons p ps =>
    refine .inr ⟨p.1, p.2.1, p.2.2.toList ++ ps.flatMap pieceText, ?_⟩
    rw [List.flatMap_cons, pieceText, List.append_assoc]

theorem separator_injective {opens opens' : Bool} {text text' : List Char}
    (same : separator opens ++ text = separator opens' ++ text') :
    opens = opens' ∧ text = text' := by
  cases opens <;> cases opens' <;> simp [separator] at same ⊢ <;> exact same

theorem type_of_append {type type' : Oid} {rest rest' : List Char}
    (minimal : type.isMinimal = true) (minimal' : type'.isMinimal = true)
    (same : (typeName type).toList ++ '=' :: rest = (typeName type').toList ++ '=' :: rest') :
    type = type' ∧ rest = rest' := by
  obtain ⟨names, rests⟩ := typeName_of_append same
  exact ⟨typeName_injective minimal minimal' names, rests⟩

/-- A type that is known from its name, and a value that hides no attribute. -/
structure IsClearText (a : Oid × String) : Prop where
  minimal : a.1.isMinimal = true
  plain : ¬ HidesAttribute a.2

theorem flatMap_pieceText_cons (type : Oid) (value : String) (ps : List (Bool × Oid × String)) :
    ∃ c rest, ((true, type, value) :: ps).flatMap pieceText = separator true ++ c :: rest := by
  rw [List.flatMap_cons, pieceText, mark]
  cases (typeName type).toList with
  | nil => exact ⟨'=', _, rfl⟩
  | cons c name => exact ⟨c, _, rfl⟩

/-- Clear pieces are known from the text that they make. -/
theorem pieces_of_text {ps qs : List (Bool × Oid × String)} (clear : ∀ p ∈ ps, IsClearText p.2)
    (clear' : ∀ q ∈ qs, IsClearText q.2) (same : ps.flatMap pieceText = qs.flatMap pieceText) :
    ps = qs := by
  have ne_nil (p : Bool × Oid × String) (ps : List (Bool × Oid × String)) :
      (p :: ps).flatMap pieceText ≠ [] := by
    obtain ⟨_ | _, type, value⟩ := p <;> simp [pieceText, mark, separator]
  induction ps generalizing qs with
  | nil =>
    cases qs with
    | nil => rfl
    | cons q qs => exact absurd same.symm (ne_nil q qs)
  | cons p ps ih =>
    cases qs with
    | nil => exact absurd same (ne_nil p ps)
    | cons q qs =>
      obtain ⟨opens, type, value⟩ := p
      obtain ⟨opens', type', value'⟩ := q
      obtain ⟨⟨minimal, plain⟩, later⟩ := List.forall_mem_cons.1 clear
      obtain ⟨⟨minimal', plain'⟩, later'⟩ := List.forall_mem_cons.1 clear'
      simp only [List.flatMap_cons, pieceText, mark, List.append_assoc] at same
      obtain ⟨rfl, after_separator⟩ := separator_injective same
      obtain ⟨rfl, after_type⟩ := type_of_append minimal minimal' after_separator
      have no_mark : ∀ opens type, ¬ mark opens type <:+: value.toList := fun opens type within =>
        plain ⟨opens, type, within⟩
      have no_mark' : ∀ opens type, ¬ mark opens type <:+: value'.toList := fun opens type within =>
        plain' ⟨opens, type, within⟩
      obtain ⟨values, rests⟩ := value_of_append no_mark no_mark' (startsMark_flatMap ps)
        (startsMark_flatMap qs) after_type
      rw [String.toList_inj.1 values, ih later later' rests]

/-- Sets of clear attributes are known from the text that they make without the first separator. -/
theorem sets_of_text {sets sets' : List (List (Oid × String))} (full : ∀ set ∈ sets, set ≠ [])
    (full' : ∀ set ∈ sets', set ≠ []) (clear : ∀ set ∈ sets, ∀ a ∈ set, IsClearText a)
    (clear' : ∀ set ∈ sets', ∀ a ∈ set, IsClearText a)
    (same : ((pieces sets).flatMap pieceText).drop 2 = ((pieces sets').flatMap pieceText).drop 2) :
    sets = sets' := by
  have pieces_clear {sets : List (List (Oid × String))}
      (clear : ∀ set ∈ sets, ∀ a ∈ set, IsClearText a) : ∀ p ∈ pieces sets, IsClearText p.2 := by
    intro p mem
    obtain ⟨set, mem_sets, mem_set⟩ := List.mem_flatMap.1 mem
    exact clear set mem_sets p.2 (snd_mem_of_mem_marked mem_set)
  refine pieces_injective full full' (pieces_of_text (pieces_clear clear) (pieces_clear clear') ?_)
  -- Either text is empty or starts with the separator of sets and goes on.
  have texts (sets : List (List (Oid × String))) : (pieces sets).flatMap pieceText = [] ∨
      ∃ c rest, (pieces sets).flatMap pieceText = separator true ++ c :: rest := by
    cases split : pieces sets with
    | nil => exact .inl rfl
    | cons p ps =>
      obtain ⟨opens, type, value⟩ := p
      obtain rfl : opens = true := opens_of_pieces sets _ (by rw [split]; rfl)
      exact .inr (flatMap_pieceText_cons type value ps)
  rcases texts sets with none | ⟨c, rest, text⟩ <;>
    rcases texts sets' with none' | ⟨c', rest', text'⟩
  · rw [none, none']
  · rw [none, text'] at same
    cases same
  · rw [none', text] at same
    cases same
  · rw [text, text'] at same ⊢
    exact congrArg (separator true ++ ·) same

end FleetIdentity
