import FleetIdentity.Datum.Json
import FleetIdentity.Json
import FleetIdentity.Proofs.Text.Utf8

/-!
# JSON that was written is read back

The compact text of a value is read as the tree of that value, whatever strings are in it: every
character between quotes is read as the piece that it was escaped to, and an integer is read as far
as a character that may stand after a value. The reader is given fuel by the length of the text, and
takes two of it for a character at most.
-/

namespace FleetIdentity

open JsonReader

namespace JsonReader

/-! ### Strings -/

/-- A piece that stands for a character, whatever comes after it. -/
def Spells (piece : Piece) (c : Char) : Prop :=
  ∀ more, join? (piece :: more) = (join? more).map (c :: ·)

theorem spells_char (c : Char) : Spells (.char c) c := fun _ => rfl

theorem spells_unit {c : Char} (control : c < ' ') : Spells (.unit c.toNat) c := by
  intro more
  have small : c.toNat < 32 := control
  rw [join?.eq_def]
  dsimp only
  rw [if_neg (by omega), if_neg (by omega), Char.ofNat_toNat]

theorem codeUnit?_control : ∀ n < 32, codeUnit? ([some '0', some '0'] ++
    (Hex.digits (UInt8.ofNat n)).map some) = some n := by
  decide

theorem pieces?_char {c : Char} (plain : ¬ c < ' ') (quote : c ≠ '"') (slash : c ≠ '\\')
    (rest : List Symbol) :
    pieces? (some c :: rest) = (pieces? rest).map fun (more, rest) => (.char c :: more, rest) := by
  rw [pieces?.eq_def]
  simp only [if_neg quote, if_neg slash, if_neg plain]

theorem pieces?_end (rest : List Symbol) : pieces? (some '"' :: rest) = some ([], rest) := by
  rw [pieces?.eq_def]
  exact if_pos rfl

theorem pieces?_escaped {e c : Char} (other : e ≠ 'u') (known : escaped? e = some c)
    (rest : List Symbol) : pieces? (some '\\' :: some e :: rest) =
      (pieces? rest).map fun (more, rest) => (.char c :: more, rest) := by
  rw [pieces?.eq_def]
  dsimp only
  rw [if_neg (by decide), if_pos rfl]
  split
  · next same =>
    cases same
    exact absurd rfl other
  · next same =>
    cases same
    rw [known]
    cases pieces? rest <;> rfl
  · next none => exact absurd rfl (none e rest)

theorem pieces?_unit {n : Nat} {s₁ s₂ s₃ s₄ : Symbol} (known : codeUnit? [s₁, s₂, s₃, s₄] = some n)
    (rest : List Symbol) : pieces? (some '\\' :: some 'u' :: s₁ :: s₂ :: s₃ :: s₄ :: rest) =
      (pieces? rest).map fun (more, rest) => (.unit n :: more, rest) := by
  rw [pieces?.eq_def]
  dsimp only
  rw [if_neg (by decide), if_pos rfl]
  split
  · next same =>
    cases same
    rw [known]
    cases pieces? rest <;> rfl
  · next longer same =>
    cases same
    exact (longer _ _ _ _ _ rfl rfl).elim
  · next none => exact absurd rfl (none _ _)

/-- A character that was escaped is read as one piece, which stands for it. -/
theorem exists_pieces?_escape (c : Char) : ∃ piece, Spells piece c ∧
    ∀ rest, pieces? ((Json.escape c).map some ++ rest) =
      (pieces? rest).map fun (more, rest) => (piece :: more, rest) := by
  unfold Json.escape
  split
  iterate 7 exact ⟨.char _, spells_char _, pieces?_escaped (by decide) rfl⟩
  · next quote slash _ _ _ _ _ =>
    split
    · next control =>
      have known := codeUnit?_control c.toNat control
      exact ⟨.unit c.toNat, spells_unit control, pieces?_unit known⟩
    · next plain =>
      exact ⟨.char c, spells_char c, pieces?_char plain quote slash⟩

/-- A text between quotes is read as that text. -/
theorem exists_pieces?_quote (s : List Char) (rest : List Symbol) :
    ∃ pieces, pieces? ((s.flatMap Json.escape ++ ['"']).map some ++ rest) = some (pieces, rest) ∧
      join? pieces = some s := by
  induction s with
  | nil => exact ⟨[], pieces?_end rest, rfl⟩
  | cons c s ih =>
    obtain ⟨pieces, read, joined⟩ := ih
    obtain ⟨piece, spells, first⟩ := exists_pieces?_escape c
    refine ⟨piece :: pieces, ?_, ?_⟩
    · rw [List.flatMap_cons, List.append_assoc, List.map_append, List.append_assoc, first, read]
      rfl
    · rw [spells, joined]
      rfl

/-! ### Numbers -/

/-- What may stand after a value: nothing, or one of the characters that end it. -/
def EndsValue (rest : List Symbol) : Prop :=
  ∀ s ∈ rest.head?, s = some ',' ∨ s = some ']' ∨ s = some '\x7d'

theorem endsValue_comma (rest : List Symbol) : EndsValue (some ',' :: rest) := by
  rintro s ⟨⟩
  exact .inl rfl

theorem endsValue_bracket (rest : List Symbol) : EndsValue (some ']' :: rest) := by
  rintro s ⟨⟩
  exact .inr (.inl rfl)

theorem endsValue_brace (rest : List Symbol) : EndsValue (some '\x7d' :: rest) := by
  rintro s ⟨⟩
  exact .inr (.inr rfl)

theorem le_of_isDigit {c : Char} (digit : c.isDigit = true) : '0' ≤ c ∧ c ≤ '9' := by
  rw [Char.isDigit, Bool.and_eq_true, decide_eq_true_iff, decide_eq_true_iff] at digit
  exact digit

theorem digit?_of_isDigit {c : Char} (digit : c.isDigit = true) :
    digit? (some c) = some (c.toNat - 48) :=
  if_pos (le_of_isDigit digit)

theorem digits_append {cs : List Char} {rest : List Symbol} (all : ∀ c ∈ cs, c.isDigit = true)
    (stops : ∀ s ∈ rest.head?, digit? s = none) :
    digits (cs.map some ++ rest) = (cs.map (fun c => c.toNat - 48), rest) := by
  induction cs with
  | nil =>
    cases rest with
    | nil => rfl
    | cons s rest =>
      rw [List.map_nil, List.nil_append, digits, stops s rfl]
      rfl
  | cons c cs ih =>
    obtain ⟨digit, later⟩ := List.forall_mem_cons.1 all
    rw [List.map_cons, List.cons_append, digits, digit?_of_isDigit digit, ih later]
    rfl

theorem ofDigits_map (cs : List Char) :
    Number.ofDigits 10 (cs.map fun c => c.toNat - 48) = Nat.ofDigitChars 10 cs 0 := by
  rw [Number.ofDigits, List.foldl_map]
  rfl

theorem isDigit_of_mem_toDigits {n : Nat} : ∀ c ∈ Nat.toDigits 10 n, c.isDigit = true :=
  fun _ mem => Nat.isDigit_of_mem_toDigits (by decide) (by decide) mem

/-- Only the number zero starts with the digit zero. -/
theorem head_toDigits {n : Nat} (positive : 0 < n) : (Nat.toDigits 10 n).head? ≠ some '0' := by
  induction n using Nat.strongRecOn with
  | ind n ih =>
    by_cases one_digit : n < 10
    · have small : ∀ k < 10, 0 < k → (Nat.toDigits 10 k).head? ≠ some '0' := by decide
      exact small n one_digit positive
    · have front := ih (n / 10) (by omega) (by omega)
      obtain ⟨d, more, digits⟩ :=
        List.exists_cons_of_ne_nil (Nat.toDigits_ne_nil (n := n / 10) (b := 10))
      rw [Nat.toDigits_of_base_le (by decide) (by omega), digits]
      rw [digits] at front
      exact front

theorem eq_zero_of_digit {c : Char} (digit : c.isDigit = true) (none : c.toNat - 48 = 0) :
    c = '0' := by
  have low : 48 ≤ c.toNat := (le_of_isDigit digit).1
  rw [← Char.ofNat_toNat c, show c.toNat = 48 by omega]

/-- A number is not written with a needless zero in front. -/
theorem values_toDigits_ne (n d : Nat) (ds : List Nat) :
    (Nat.toDigits 10 n).map (fun c => c.toNat - 48) ≠ 0 :: d :: ds := by
  intro zero
  have positive : 0 < n := Nat.pos_of_ne_zero (by rintro rfl; cases zero)
  obtain ⟨c, more, chars⟩ := List.exists_cons_of_ne_nil (Nat.toDigits_ne_nil (n := n) (b := 10))
  have not_zero := head_toDigits positive
  have digit := isDigit_of_mem_toDigits c (chars ▸ List.mem_cons_self)
  rw [chars, List.map_cons] at zero
  rw [chars, eq_zero_of_digit digit (List.cons.inj zero).1] at not_zero
  exact not_zero rfl

theorem EndsValue.digit? {rest : List Symbol} (ends : EndsValue rest) :
    ∀ s ∈ rest.head?, digit? s = none := by
  intro s first
  rcases ends s first with rfl | rfl | rfl <;> decide

theorem EndsValue.fraction? {rest : List Symbol} (ends : EndsValue rest) :
    fraction? rest = some ([], rest) := by
  unfold JsonReader.fraction?
  split
  · rcases ends _ rfl with other | other | other <;> cases other
  · rfl

theorem EndsValue.exponent? {rest : List Symbol} (ends : EndsValue rest) :
    exponent? rest = some (none, rest) := by
  unfold JsonReader.exponent?
  split
  · rcases ends _ rfl with other | other | other <;> cases other
  · rcases ends _ rfl with other | other | other <;> cases other
  · rfl

/-- A number that was written, with or without a sign in front. -/
theorem number_toDigits (negative : Bool) (n : Nat) {rest : List Symbol} (ends : EndsValue rest) :
    number (((if negative then ['-'] else []) ++ Nat.toDigits 10 n).map some ++ rest) =
      (whole negative n, some rest) := by
  have read : digits ((Nat.toDigits 10 n).map some ++ rest) = _ :=
    digits_append isDigit_of_mem_toDigits ends.digit?
  have value : Number.ofDigits 10 ((Nat.toDigits 10 n).map fun c => c.toNat - 48) = n := by
    rw [ofDigits_map, Nat.ofDigitChars_toDigits (by decide) (by decide)]
  obtain ⟨d, more, chars⟩ := List.exists_cons_of_ne_nil (Nat.toDigits_ne_nil (n := n) (b := 10))
  have digit : ∀ c ∈ d :: more, c.isDigit = true := chars ▸ isDigit_of_mem_toDigits
  unfold number
  split
  next negative' text sign =>
    have known : (negative', text) = (negative, (Nat.toDigits 10 n).map some ++ rest) := by
      rw [← sign]
      cases negative with
      | true => rfl
      | false =>
        rw [chars]
        split
        · next same =>
          cases same
          exact absurd (digit '-' List.mem_cons_self) (by decide)
        · rfl
    obtain ⟨rfl, rfl⟩ := Prod.mk.inj known
    rw [read]
    split
    · next none =>
      rw [chars] at none
      cases none
    · next zero => exact absurd (Prod.mk.inj zero).1 (values_toDigits_ne n _ _)
    · next found =>
      obtain ⟨rfl, rfl⟩ := Prod.mk.inj found
      rw [ends.fraction?]
      dsimp only
      rw [ends.exponent?]
      dsimp only
      rw [value]
      rfl

/-! ### Values -/

theorem skipSpace_cons {s : Symbol} (plain : isSpace s = false) (rest : List Symbol) :
    skipSpace (s :: rest) = s :: rest := by
  rw [skipSpace, List.dropWhile_cons_of_neg (by rw [plain]; decide)]

variable {fuel : Nat} {rest : List Symbol}

theorem value_text : value (fuel + 1) (some '"' :: rest) =
    match pieces? rest with
    | some (pieces, rest) => (.text (text? pieces), some rest)
    | none => broken :=
  rfl

/-- A text between quotes, up to its end. -/
theorem exists_pieces?_of_quote (s : String) (rest : List Symbol) : ∃ inner pieces,
    (Json.quote s).map some ++ rest = some '"' :: inner ∧
      pieces? inner = some (pieces, rest) ∧ text? pieces = some s := by
  obtain ⟨pieces, read, joined⟩ := exists_pieces?_quote s.toList rest
  refine ⟨_, pieces, rfl, read, ?_⟩
  rw [text?, joined, Option.map_some, String.ofList_toList]

theorem value_quote (s : String) :
    value (fuel + 1) ((Json.quote s).map some ++ rest) = (.text (some s), some rest) := by
  obtain ⟨inner, pieces, quoted, read, text⟩ := exists_pieces?_of_quote s rest
  rw [quoted, value_text, read]
  dsimp only
  rw [text]

theorem value_null : value (fuel + 1) (['n', 'u', 'l', 'l'].map some ++ rest) =
    (.null, some rest) :=
  rfl

theorem value_true : value (fuel + 1) (['t', 'r', 'u', 'e'].map some ++ rest) =
    (.bool true, some rest) :=
  rfl

theorem value_false : value (fuel + 1) (['f', 'a', 'l', 's', 'e'].map some ++ rest) =
    (.bool false, some rest) :=
  rfl

theorem ne_of_startsNumber {c d : Char} (starts : c = '-' ∨ c.isDigit = true)
    (no_start : d ≠ '-' ∧ d.isDigit = false) : c ≠ d := by
  rintro rfl
  rcases starts with sign | digit
  · exact no_start.1 sign
  · rw [no_start.2] at digit
    cases digit

theorem isSpace_of_startsNumber {c : Char} (starts : c = '-' ∨ c.isDigit = true) :
    isSpace (some c) = false := by
  have other {d : Char} := ne_of_startsNumber (d := d) starts
  simp [isSpace, other (d := ' ') (by decide), other (d := '\n') (by decide),
    other (d := '\t') (by decide), other (d := '\r') (by decide)]

/-- A digit or a sign starts a number. -/
theorem value_number {c : Char} (starts : c = '-' ∨ c.isDigit = true) :
    value (fuel + 1) (some c :: rest) = number (some c :: rest) := by
  have other {d : Char} := ne_of_startsNumber (d := d) starts
  rw [value, skipSpace_cons (isSpace_of_startsNumber starts)]
  split
  · next same => cases same; exact absurd rfl (other (by decide))
  · next same => cases same; exact absurd rfl (other (by decide))
  · next same => cases same; exact absurd rfl (other (by decide))
  · next same => cases same; exact absurd rfl (other (by decide))
  · next same => cases same; exact absurd rfl (other (by decide))
  · next same => cases same; exact absurd rfl (other (by decide))
  · rfl

theorem value_list_cons {c : Char} (plain : isSpace (some c) = false) (goes_on : c ≠ ']') :
    value (fuel + 1) (some '[' :: some c :: rest) =
      (.list (items fuel (some c :: rest)).1, (items fuel (some c :: rest)).2) := by
  rw [value, skipSpace_cons rfl]
  split
  · next same => cases same
  · next same =>
    cases same
    rw [skipSpace_cons plain]
    split
    · next same =>
      cases same
      exact absurd rfl goes_on
    · rfl
  · next same => cases same
  · next same => cases same
  · next same => cases same
  · next same => cases same
  · next other _ _ _ _ => exact absurd rfl (other _)

theorem value_table_quote : value (fuel + 1) (some '\x7b' :: some '"' :: rest) =
    (.table (entries fuel (some '"' :: rest)).1, (entries fuel (some '"' :: rest)).2) :=
  rfl

theorem items_last {text : List Symbol} {item : Datum}
    (read : value fuel text = (item, some (some ']' :: rest))) :
    items (fuel + 1) text = ([item], some rest) := by
  rw [items, read]
  rfl

theorem items_more {text : List Symbol} {item : Datum}
    (read : value fuel text = (item, some (some ',' :: rest))) :
    items (fuel + 1) text = (item :: (items fuel rest).1, (items fuel rest).2) := by
  rw [items, read]
  rfl

/-- An entry is a name, a colon and a value; then the table ends or goes on. -/
theorem entries_quote (name : String) {text : List Symbol} :
    entries (fuel + 1) ((Json.quote name).map some ++ some ':' :: text) =
      match value fuel text with
      | (item, none) => ([(some name, item)], none)
      | (item, some rest) =>
        match skipSpace rest with
        | some ',' :: rest => ((some name, item) :: (entries fuel rest).1, (entries fuel rest).2)
        | some '\x7d' :: rest => ([(some name, item)], some rest)
        | _ => ([(some name, item), (none, .cut)], none) := by
  obtain ⟨inner, pieces, quoted, name_read, name_text⟩ :=
    exists_pieces?_of_quote name (some ':' :: text)
  rw [quoted, entries, skipSpace_cons rfl, ← name_text]
  split
  · next same =>
    cases same
    rw [name_read]
    rfl
  · next other => exact absurd rfl (other inner)

theorem entries_last {name : String} {text : List Symbol} {item : Datum}
    (read : value fuel text = (item, some (some '\x7d' :: rest))) :
    entries (fuel + 1) ((Json.quote name).map some ++ some ':' :: text) =
      ([(some name, item)], some rest) := by
  rw [entries_quote, read]
  rfl

theorem entries_more {name : String} {text : List Symbol} {item : Datum}
    (read : value fuel text = (item, some (some ',' :: rest))) :
    entries (fuel + 1) ((Json.quote name).map some ++ some ':' :: text) =
      ((some name, item) :: (entries fuel rest).1, (entries fuel rest).2) := by
  rw [entries_quote, read]
  rfl

end JsonReader

namespace Json

mutual

/-- The tree that a value is read as. -/
def toDatum : Json → Datum
  | .null => .null
  | .bool value => .bool value
  | .integer n => whole (decide (n < 0)) n.natAbs
  | .text s => .text (some s)
  | .list items => .list (toData items)
  | .object members => .table (toEntries members)

/-- The trees of the items. -/
def toData : List Json → List Datum
  | [] => []
  | item :: rest => item.toDatum :: toData rest

/-- The trees of the members with their names. -/
def toEntries : List (String × Json) → List (Option String × Datum)
  | [] => []
  | (name, value) :: rest => (some name, value.toDatum) :: toEntries rest

end

theorem toData_eq_map (items : List Json) : toData items = items.map toDatum := by
  induction items with
  | nil => rfl
  | cons item items ih => rw [toData, ih, List.map_cons]

theorem digits_eq (n : Int) :
    digits n = (if decide (n < 0) then ['-'] else []) ++ Nat.toDigits 10 n.natAbs := by
  cases n with
  | ofNat m =>
    rw [if_neg (by simp)]
    exact Nat.toList_repr
  | negSucc m =>
    rw [if_pos (by simp)]
    show ("-" ++ Nat.repr (m + 1)).toList = _
    rw [String.toList_append, Nat.toList_repr]
    rfl

theorem digits_eq_cons (n : Int) :
    ∃ c more, digits n = c :: more ∧ (c = '-' ∨ c.isDigit = true) := by
  rw [digits_eq]
  obtain ⟨c, more, chars⟩ :=
    List.exists_cons_of_ne_nil (Nat.toDigits_ne_nil (n := n.natAbs) (b := 10))
  have digit := isDigit_of_mem_toDigits c (chars ▸ List.mem_cons_self)
  rw [chars]
  cases decide (n < 0) with
  | true => exact ⟨'-', c :: more, rfl, .inl rfl⟩
  | false => exact ⟨c, more, rfl, .inr digit⟩

/-- What a value starts with: no space, and nothing that ends a list. -/
theorem write_eq_cons (j : Json) : ∃ c more, j.write = c :: more ∧ isSpace (some c) = false ∧
    c ≠ ']' := by
  cases j with
  | null => exact ⟨_, _, rfl, by decide, by decide⟩
  | bool b => cases b <;> exact ⟨_, _, rfl, by decide, by decide⟩
  | integer n =>
    obtain ⟨c, more, chars, starts⟩ := digits_eq_cons n
    exact ⟨c, more, chars, isSpace_of_startsNumber starts, ne_of_startsNumber starts (by decide)⟩
  | text s => exact ⟨_, _, rfl, by decide, by decide⟩
  | list items => exact ⟨_, _, rfl, by decide, by decide⟩
  | object members => exact ⟨_, _, rfl, by decide, by decide⟩

theorem writeItems_cons_cons (item next : Json) (items : List Json) :
    writeItems (item :: next :: items) = item.write ++ ',' :: writeItems (next :: items) :=
  rfl

theorem writeMembers_singleton (name : String) (value : Json) :
    writeMembers [(name, value)] = quote name ++ ':' :: value.write :=
  rfl

theorem writeMembers_cons_cons (name : String) (value : Json) (next : String × Json)
    (members : List (String × Json)) : writeMembers ((name, value) :: next :: members) =
      quote name ++ ':' :: value.write ++ ',' :: writeMembers (next :: members) :=
  rfl

theorem writeItems_eq_cons (item : Json) (items : List Json) :
    ∃ c more, writeItems (item :: items) = c :: more ∧ isSpace (some c) = false ∧ c ≠ ']' := by
  obtain ⟨c, more, chars, plain, goes_on⟩ := write_eq_cons item
  cases items with
  | nil => exact ⟨c, more, chars, plain, goes_on⟩
  | cons next items =>
    refine ⟨c, more ++ ',' :: writeItems (next :: items), ?_, plain, goes_on⟩
    rw [writeItems_cons_cons, chars, List.cons_append]

theorem writeMembers_eq_cons (m : String × Json) (members : List (String × Json)) :
    ∃ more, writeMembers (m :: members) = '"' :: more := by
  cases members with
  | nil => exact ⟨_, rfl⟩
  | cons next members => exact ⟨_, rfl⟩

mutual

/-- A value in front of what may stand after one is read as its tree. -/
theorem value_write (j : Json) (fuel : Nat) (rest : List Symbol)
    (enough : 2 * j.write.length ≤ fuel) (ends : EndsValue rest) :
    value fuel (j.write.map some ++ rest) = (j.toDatum, some rest) := by
  -- By recursion on the tree. A value has a character at least, so that two units of fuel for each
  -- character pay for the value and for the list or table that goes on after it.
  obtain ⟨fuel, rfl⟩ : ∃ less, fuel = less + 1 := by
    obtain ⟨c, more, chars, -⟩ := write_eq_cons j
    rw [chars, List.length_cons] at enough
    exact ⟨fuel - 1, by omega⟩
  cases j with
  | null => exact value_null
  | bool b =>
    cases b with
    | true => exact value_true
    | false => exact value_false
  | integer n =>
    have read := number_toDigits (decide (n < 0)) n.natAbs ends
    rw [← digits_eq] at read
    obtain ⟨c, more, chars, starts⟩ := digits_eq_cons n
    rw [write, toDatum, ← read, chars]
    exact value_number starts
  | text s => exact value_quote s
  | list items =>
    cases items with
    | nil => rfl
    | cons item more =>
      have within : 2 * (writeItems (item :: more)).length < fuel := by
        simp only [write, List.length_append, List.length_cons, List.length_nil] at enough
        omega
      have inner := items_write (item :: more) fuel rest (List.cons_ne_nil _ _) within
      have text : (write (.list (item :: more))).map some ++ rest =
          some '[' :: ((writeItems (item :: more)).map some ++ some ']' :: rest) := by
        simp [write]
      obtain ⟨c, tail, chars, plain, goes_on⟩ := writeItems_eq_cons item more
      rw [text, toDatum]
      rw [chars, List.map_cons, List.cons_append] at inner ⊢
      rw [value_list_cons plain goes_on, inner]
  | object members =>
    cases members with
    | nil => rfl
    | cons m more =>
      have within : 2 * (writeMembers (m :: more)).length < fuel := by
        simp only [write, List.length_append, List.length_cons, List.length_nil] at enough
        omega
      have inner := entries_write (m :: more) fuel rest (List.cons_ne_nil _ _) within
      have text : (write (.object (m :: more))).map some ++ rest =
          some '\x7b' :: ((writeMembers (m :: more)).map some ++ some '\x7d' :: rest) := by
        simp [write]
      obtain ⟨tail, chars⟩ := writeMembers_eq_cons m more
      rw [text, toDatum]
      rw [chars, List.map_cons, List.cons_append] at inner ⊢
      rw [value_table_quote, inner]

/-- Items in front of the bracket that ends them are read as their trees. -/
theorem items_write (list : List Json) (fuel : Nat) (rest : List Symbol) (ne_nil : list ≠ [])
    (enough : 2 * (writeItems list).length < fuel) :
    items fuel ((writeItems list).map some ++ some ']' :: rest) = (toData list, some rest) := by
  obtain ⟨fuel, rfl⟩ : ∃ less, fuel = less + 1 := ⟨fuel - 1, by omega⟩
  match list, ne_nil with
  | [item], _ =>
    exact items_last (value_write item fuel _ (Nat.le_of_lt_succ enough) (endsValue_bracket rest))
  | item :: next :: more, _ =>
    have longer : (writeItems (item :: next :: more)).length =
        item.write.length + 1 + (writeItems (next :: more)).length := by
      rw [writeItems_cons_cons, List.length_append, List.length_cons]
      omega
    have text : (writeItems (item :: next :: more)).map some ++ some ']' :: rest =
        item.write.map some ++
          some ',' :: ((writeItems (next :: more)).map some ++ some ']' :: rest) := by
      simp [writeItems_cons_cons]
    have first := value_write item fuel _ (by omega) (endsValue_comma
      ((writeItems (next :: more)).map some ++ some ']' :: rest))
    have later := items_write (next :: more) fuel rest (List.cons_ne_nil _ _) (by omega)
    rw [text, items_more first, later]
    rfl

/-- Members in front of the brace that ends them are read as their trees. -/
theorem entries_write (members : List (String × Json)) (fuel : Nat) (rest : List Symbol)
    (ne_nil : members ≠ []) (enough : 2 * (writeMembers members).length < fuel) :
    entries fuel ((writeMembers members).map some ++ some '\x7d' :: rest) =
      (toEntries members, some rest) := by
  obtain ⟨fuel, rfl⟩ : ∃ less, fuel = less + 1 := ⟨fuel - 1, by omega⟩
  match members, ne_nil with
  | [(name, j)], _ =>
    have longer : (writeMembers [(name, j)]).length = (quote name).length + 1 + j.write.length := by
      rw [writeMembers_singleton, List.length_append, List.length_cons]
      omega
    have text : (writeMembers [(name, j)]).map some ++ some '\x7d' :: rest =
        (quote name).map some ++ some ':' :: (j.write.map some ++ some '\x7d' :: rest) := by
      simp [writeMembers_singleton]
    have first := value_write j fuel _ (by omega) (endsValue_brace rest)
    rw [text, entries_last first, toEntries, toEntries]
  | (name, j) :: next :: more, _ =>
    have longer : (writeMembers ((name, j) :: next :: more)).length =
        (quote name).length + 1 + j.write.length + 1 + (writeMembers (next :: more)).length := by
      rw [writeMembers_cons_cons, List.length_append, List.length_append, List.length_cons,
        List.length_cons]
      omega
    have text : (writeMembers ((name, j) :: next :: more)).map some ++ some '\x7d' :: rest =
        (quote name).map some ++ some ':' :: (j.write.map some ++
          some ',' :: ((writeMembers (next :: more)).map some ++ some '\x7d' :: rest)) := by
      simp [writeMembers_cons_cons]
    have first := value_write j fuel _ (by omega) (endsValue_comma
      ((writeMembers (next :: more)).map some ++ some '\x7d' :: rest))
    have later := entries_write (next :: more) fuel rest (List.cons_ne_nil _ _) (by omega)
    rw [text, entries_more first, later]
    rfl

end

/-- The text of a value is read as its tree. -/
theorem readAll_toText (j : Json) : readAll (Utf8.ofString j.toText) = j.toDatum := by
  have chars : j.toText.toList = j.write := String.toList_ofList
  have enough : 2 * j.write.length ≤ 2 * (Utf8.ofString j.toText).length + 2 := by
    have bound := Utf8.length_le_encode j.toText.toList
    rw [chars] at bound
    rw [Utf8.ofString, chars]
    omega
  have whole := value_write j _ [] enough (fun _ none => nomatch none)
  rw [List.append_nil] at whole
  rw [readAll, JsonReader.read, Utf8.ofString, Utf8.symbols_encode, ← Utf8.ofString, chars, whole]
  rfl

end Json

end FleetIdentity
