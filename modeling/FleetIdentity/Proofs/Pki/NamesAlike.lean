import FleetIdentity.Proofs.Encoding.Hex
import FleetIdentity.Proofs.Pki.NameTexts
import FleetIdentity.Proofs.Pki.RebuiltNames

/-!
# Names that read alike

Clear names that read alike have the same types and the same texts of values, set for set, and they
are the same if the kinds of string are. Names that are not clear, and all names of more than one
attribute, read like other names: an attribute without text may have any type, an identifier may be
longer than needed, and where one attribute ends and the next one starts is for the reader to guess.
-/

namespace FleetIdentity

open Asn1 DistinguishedName NameAttribute

/-! ### Values and their texts -/

namespace NameAttribute

variable {a b : NameAttribute} {value : String}

/-- The type and the text of the value, if it has one. -/
def reading (a : NameAttribute) : Oid × Option String :=
  (a.type, a.valueText?)

/-- The type and the text of the value, with the empty text in the place of none. -/
def spelled (a : NameAttribute) : Oid × String :=
  (a.type, a.valueText?.getD "")

/-- The type is known from its name, and the value has a text that hides no attribute. -/
def IsClear (a : NameAttribute) : Prop :=
  a.type.isMinimal = true ∧ ∃ value, a.valueText? = some value ∧ ¬ HidesAttribute value

theorem valueText?_ofText (type : Oid) (text : String) :
    (ofText type text).valueText? = some text := by
  have tagged : (ofText type text).hasTag octetStrings = true := rfl
  rw [valueText?, if_pos tagged, Utf8.toString?, ofText, Utf8.ofString, Utf8.decode?_encode,
    Option.map_some, String.ofList_toList]

theorem spelled_ofText (p : Oid × String) : (ofText p.1 p.2).spelled = p := by
  rw [spelled, valueText?_ofText]
  rfl

theorem units?_injective {octets octets' : Octets} {units : List Nat}
    (read : units? octets = some units) (read' : units? octets' = some units) :
    octets = octets' := by
  fun_induction units? octets generalizing octets' units with
  | case1 =>
    cases read
    match octets' with
    | [] => rfl
    | [_] => cases read'
    | _ :: _ :: _ =>
      obtain ⟨_, _, other⟩ := Option.map_eq_some_iff.1 read'
      cases other
  | case2 => cases read
  | case3 x y rest ih =>
    obtain ⟨later, read_rest, rfl⟩ := Option.map_eq_some_iff.1 read
    match octets' with
    | [] => cases read'
    | [_] => cases read'
    | x' :: y' :: rest' =>
      obtain ⟨later', read_rest', same⟩ := Option.map_eq_some_iff.1 read'
      obtain ⟨unit, rfl⟩ := List.cons.inj same
      have bound := y.toNat_lt
      have bound' := y'.toNat_lt
      obtain rfl : x = x' := UInt8.toNat_inj.1 (by omega)
      obtain rfl : y = y' := UInt8.toNat_inj.1 (by omega)
      rw [ih read_rest read_rest']

theorem units?_lt {octets : Octets} {units : List Nat} (read : units? octets = some units) :
    ∀ n ∈ units, n < 0x10000 := by
  fun_induction units? octets generalizing units with
  | case1 =>
    cases read
    exact List.forall_mem_nil _
  | case2 => cases read
  | case3 x y rest ih =>
    obtain ⟨later, read_rest, rfl⟩ := Option.map_eq_some_iff.1 read
    have bound := x.toNat_lt
    have bound' := y.toNat_lt
    exact List.forall_mem_cons.2 ⟨by omega, ih read_rest⟩

/-- The units of a character: one, or two surrogates. -/
def charUnits (c : Char) : List Nat :=
  if c.toNat < 0x10000 then [c.toNat]
  else [0xD800 + (c.toNat - 0x10000) / 0x400, 0xDC00 + (c.toNat - 0x10000) % 0x400]

theorem toNat_ofNat {n : Nat} (valid : n.isValidChar) : (Char.ofNat n).toNat = n := by
  rw [Char.ofNat, dif_pos valid]
  exact UInt32.toNat_ofNatLT ..

/-- The units of a text are all that it is made of. -/
theorem units_of_ofUnits? {units : List Nat} {text : List Char} (bound : ∀ n ∈ units, n < 0x10000)
    (read : ofUnits? units = some text) : units = text.flatMap charUnits := by
  fun_induction ofUnits? units generalizing text with
  | case1 =>
    cases read
    rfl
  | case2 n high m rest low ih =>
    obtain ⟨later, read_rest, rfl⟩ := Option.map_eq_some_iff.1 read
    have code : (Char.ofNat (0x10000 + (n - 0xD800) * 0x400 + (m - 0xDC00))).toNat =
        0x10000 + (n - 0xD800) * 0x400 + (m - 0xDC00) :=
      toNat_ofNat (.inr (by omega))
    have later_bound : ∀ k ∈ rest, k < 0x10000 := fun k mem =>
      bound k (List.mem_cons_of_mem _ (List.mem_cons_of_mem _ mem))
    rw [List.flatMap_cons, charUnits, code, if_neg (by omega), ← ih later_bound read_rest]
    simp only [List.cons_append, List.nil_append, List.cons.injEq, and_true]
    omega
  | case3 => cases read
  | case4 => cases read
  | case5 => cases read
  | case6 n rest not_high not_low ih =>
    obtain ⟨later, read_rest, rfl⟩ := Option.map_eq_some_iff.1 read
    obtain ⟨here, later_bound⟩ := List.forall_mem_cons.1 bound
    have code : (Char.ofNat n).toNat = n := toNat_ofNat (by unfold Nat.isValidChar; omega)
    rw [List.flatMap_cons, charUnits, code, if_pos here, ← ih later_bound read_rest]
    rfl

/-- The texts of values of one kind tell the values apart. -/
theorem eq_of_valueText? (kinds : a.value.identifier = b.value.identifier)
    (read : a.valueText? = some value) (read' : b.valueText? = some value) :
    a.value = b.value := by
  suffices contents : a.value.content = b.value.content by
    show Element.mk _ _ = Element.mk _ _
    rw [kinds, contents]
  have tags (tags : List Tag) : b.hasTag tags = a.hasTag tags := by rw [hasTag, hasTag, kinds]
  rw [valueText?] at read read'
  rw [tags, tags] at read'
  by_cases octets : a.hasTag octetStrings = true
  · rw [if_pos octets] at read read'
    obtain ⟨text, decoded, rfl⟩ := Option.map_eq_some_iff.1 read
    obtain ⟨text', decoded', same⟩ := Option.map_eq_some_iff.1 read'
    obtain rfl := String.ofList_injective same
    rw [Utf8.encode_of_decode? decoded, Utf8.encode_of_decode? decoded']
  rw [if_neg octets] at read read'
  by_cases units : a.hasTag [.bmpString] = true
  · rw [if_pos units] at read read'
    obtain ⟨text, decoded, rfl⟩ := Option.map_eq_some_iff.1 read
    obtain ⟨text', decoded', same⟩ := Option.map_eq_some_iff.1 read'
    obtain rfl := String.ofList_injective same
    obtain ⟨given, read_units, made⟩ := Option.bind_eq_some_iff.1 decoded
    obtain ⟨given', read_units', made'⟩ := Option.bind_eq_some_iff.1 decoded'
    obtain rfl : given = given' := by
      rw [units_of_ofUnits? (units?_lt read_units) made,
        units_of_ofUnits? (units?_lt read_units') made']
    exact units?_injective read_units read_units'
  · rw [if_neg units] at read read'
    exact Hex.upperText_injective ((Option.some.inj read).trans (Option.some.inj read').symm)

end NameAttribute

namespace DistinguishedName

variable {name name' : DistinguishedName} {set : List NameAttribute}

/-! ### The text of a name in pieces -/

/-- The types and texts of all values, set for set. -/
def spelling (name : DistinguishedName) : List (List (Oid × Option String)) :=
  name.map (·.map reading)

/-- The kinds of all values, set for set. -/
def kinds (name : DistinguishedName) : List (List Identifier) :=
  name.map (·.map (·.value.identifier))

/-- No set is empty. -/
def IsFull (name : DistinguishedName) : Prop :=
  ∀ set ∈ name, set ≠ []

/-- All attributes are clear. -/
def IsClear (name : DistinguishedName) : Prop :=
  ∀ set ∈ name, ∀ a ∈ set, a.IsClear

/-- All values have a text. -/
def IsReadable (name : DistinguishedName) : Prop :=
  ∀ set ∈ name, ∀ a ∈ set, a.valueText?.isSome = true

theorem IsClear.isReadable (clear : name.IsClear) : name.IsReadable := by
  intro set mem a mem_set
  obtain ⟨-, value, known, -⟩ := clear set mem a mem_set
  rw [known]
  rfl

theorem mapM_eq_some_map {α β : Type} {f : α → Option β} {g : α → β} {items : List α}
    (known : ∀ a ∈ items, f a = some (g a)) : items.mapM f = some (items.map g) := by
  induction items with
  | nil => rfl
  | cons a items ih =>
    obtain ⟨here, later⟩ := List.forall_mem_cons.1 known
    rw [List.mapM_cons, here, ih later]
    rfl

theorem text_of_readable (readable : name.IsReadable) : text name =
    String.intercalate ", " (name.map fun set => String.intercalate " + " (set.map shown)) := by
  have sets : ∀ set ∈ name, setText? set = some (String.intercalate " + " (set.map shown)) := by
    intro set mem
    rw [setText?, mapM_eq_some_map fun a mem_set => text?_of_readable (readable set mem a mem_set)]
    rfl
  rw [text, text?, mapM_eq_some_map sets]
  rfl

theorem toList_intercalate_cons (between first : String) (more : List String) :
    (String.intercalate between (first :: more)).toList =
      first.toList ++ more.flatMap fun s => between.toList ++ s.toList := by
  induction more generalizing first with
  | nil => simp
  | cons second more ih =>
    rw [String.intercalate_cons_cons, String.toList_append, String.toList_append, ih,
      List.flatMap_cons]
    simp

/-- A set with the separator in front of it is its attributes, each with its separator. -/
theorem separator_setText (ne_nil : set ≠ []) :
    separator true ++ (String.intercalate " + " (set.map shown)).toList =
      (marked set).flatMap fun p => separator p.1 ++ p.2.shown.toList := by
  cases set with
  | nil => exact absurd rfl ne_nil
  | cons a more =>
    rw [List.map_cons, toList_intercalate_cons, marked, List.flatMap_cons, List.flatMap_map,
      List.flatMap_map, List.append_assoc]
    rfl

/-- The text of a name is that of its pieces without the separator in front. -/
theorem toList_text (full : name.IsFull) (readable : name.IsReadable) :
    (text name).toList =
      ((pieces (name.map (·.map spelled))).flatMap pieceText).drop 2 := by
  have in_pieces : (pieces (name.map (·.map spelled))).flatMap pieceText =
      name.flatMap fun set => separator true ++
        (String.intercalate " + " (set.map shown)).toList := by
    rw [pieces_map, List.flatMap_map, pieces, List.flatMap_assoc]
    refine List.flatMap_congr fun set mem => ?_
    rw [separator_setText (full set mem)]
    refine List.flatMap_congr fun p mem_set => ?_
    have shows := toList_shown (readable set mem p.2 (snd_mem_of_mem_marked mem_set))
    rw [shows, pieceText, mark]
    simp [spelled]
  rw [text_of_readable readable, in_pieces]
  cases name with
  | nil => rfl
  | cons set more =>
    rw [List.map_cons, toList_intercalate_cons, List.flatMap_map, List.flatMap_cons]
    rfl

/-! ### Clear names -/

theorem IsFull.map (full : name.IsFull) {β : Type} (f : NameAttribute → β) :
    ∀ set ∈ name.map (·.map f), set ≠ [] := by
  intro set mem
  obtain ⟨given, mem_name, rfl⟩ := List.mem_map.1 mem
  exact fun none => full given mem_name (List.map_eq_nil_iff.1 none)

theorem IsClear.isClearText (clear : name.IsClear) :
    ∀ set ∈ name.map (·.map spelled), ∀ a ∈ set, IsClearText a := by
  intro set mem p mem_set
  obtain ⟨given, mem_name, rfl⟩ := List.mem_map.1 mem
  obtain ⟨a, mem_given, rfl⟩ := List.mem_map.1 mem_set
  obtain ⟨minimal, value, known, plain⟩ := clear given mem_name a mem_given
  exact ⟨minimal, by rwa [spelled, known]⟩

theorem spelling_of_readable (readable : name.IsReadable) :
    spelling name = (name.map (·.map spelled)).map (List.map fun p => (p.1, some p.2)) := by
  rw [spelling, List.map_map]
  refine List.map_congr_left fun set mem => ?_
  rw [Function.comp_apply, List.map_map]
  refine List.map_congr_left fun a mem_set => ?_
  obtain ⟨value, known⟩ := Option.isSome_iff_exists.1 (readable set mem a mem_set)
  rw [Function.comp_apply, reading, spelled, known]
  rfl

/-- Clear names that read alike have the same types and the same texts of values. -/
theorem spelling_of_text (full : name.IsFull) (full' : name'.IsFull) (clear : name.IsClear)
    (clear' : name'.IsClear) (same : text name = text name') : spelling name = spelling name' := by
  have texts := congrArg String.toList same
  rw [toList_text full clear.isReadable, toList_text full' clear'.isReadable] at texts
  have sets := sets_of_text (full.map spelled) (full'.map spelled) clear.isClearText
    clear'.isClearText texts
  rw [spelling_of_readable clear.isReadable, spelling_of_readable clear'.isReadable, sets]

theorem map_injOn₂ {α β γ : Type} {f : α → β} {g : α → γ} {l l' : List α}
    (inj : ∀ a ∈ l, ∀ b ∈ l', f a = f b → g a = g b → a = b) (firsts : l.map f = l'.map f)
    (seconds : l.map g = l'.map g) : l = l' := by
  induction l generalizing l' with
  | nil => exact (List.map_eq_nil_iff.1 firsts.symm).symm
  | cons a l ih =>
    cases l' with
    | nil => cases firsts
    | cons b l' =>
      obtain ⟨here, later⟩ := List.cons.inj firsts
      obtain ⟨here', later'⟩ := List.cons.inj seconds
      have rest := ih (fun x hx y hy => inj x (List.mem_cons_of_mem a hx) y
        (List.mem_cons_of_mem b hy)) later later'
      rw [inj a List.mem_cons_self b List.mem_cons_self here here', rest]

/-- With the same kinds of values they are the same names. -/
theorem eq_of_spelling (readable : name.IsReadable) (same : spelling name = spelling name')
    (same_kinds : kinds name = kinds name') : name = name' := by
  refine map_injOn₂ (fun set mem set' _ => map_injOn₂ fun a mem_set b _ reads kind => ?_) same
    same_kinds
  obtain ⟨types, values⟩ := Prod.mk.inj reads
  obtain ⟨value, known⟩ := Option.isSome_iff_exists.1 (readable set mem a mem_set)
  have same_value := eq_of_valueText? kind known (values.symm.trans known)
  show NameAttribute.mk _ _ = NameAttribute.mk _ _
  rw [types, same_value]

/-! ### Names that read like others -/

theorem text?_congr (same : name.map (·.map NameAttribute.text?) =
    name'.map (·.map NameAttribute.text?)) : text name = text name' := by
  have by_texts (name : DistinguishedName) : text? name =
      ((name.map (·.map NameAttribute.text?)).mapM fun (texts : List (Option String)) =>
        (texts.mapM id).map (String.intercalate " + ")).map (String.intercalate ", ") := by
    rw [text?, List.mapM_map]
    refine congrArg (Option.map _) (congrArg (fun f => List.mapM f name) (funext fun set => ?_))
    rw [Function.comp_apply, setText?, List.mapM_map]
    rfl
  rw [text, text, by_texts, by_texts, same]

/-- The name of attributes with the given types and texts. -/
def ofTexts (sets : List (List (Oid × String))) : DistinguishedName :=
  sets.map (·.map fun p => ofText p.1 p.2)

theorem map_spelled_ofTexts (sets : List (List (Oid × String))) :
    (ofTexts sets).map (·.map spelled) = sets := by
  rw [ofTexts, List.map_map]
  refine (List.map_congr_left fun set _ => ?_).trans (List.map_id sets)
  rw [Function.comp_apply, List.map_map]
  exact (List.map_congr_left fun p _ => spelled_ofText p).trans (List.map_id set)

theorem isReadable_ofTexts (sets : List (List (Oid × String))) : (ofTexts sets).IsReadable := by
  intro set mem a mem_set
  obtain ⟨given, _, rfl⟩ := List.mem_map.1 mem
  obtain ⟨p, _, rfl⟩ := List.mem_map.1 mem_set
  rw [valueText?_ofText]
  rfl

theorem isFull_ofTexts {sets : List (List (Oid × String))} (full : ∀ set ∈ sets, set ≠ []) :
    (ofTexts sets).IsFull := by
  intro set mem
  obtain ⟨given, mem_sets, rfl⟩ := List.mem_map.1 mem
  exact fun none => full given mem_sets (List.map_eq_nil_iff.1 none)

/-- An attribute that has no text, or whose type is not known from its name, may be another. -/
theorem exists_text?_eq {a : NameAttribute}
    (unclear : a.valueText? = none ∨ a.type.isMinimal = false) :
    ∃ b : NameAttribute, b.text? = a.text? ∧ b.type ≠ a.type := by
  rcases unclear with unreadable | long
  · refine ⟨{ a with type := 0 :: a.type }, ?_, ?_⟩
    · have same : ({ a with type := 0 :: a.type } : NameAttribute).valueText? = a.valueText? := rfl
      rw [NameAttribute.text?, NameAttribute.text?, same, unreadable]
      rfl
    · exact List.cons_ne_self 0 a.type
  · obtain ⟨type, other, named⟩ := exists_typeName_eq long
    refine ⟨{ a with type }, ?_, other⟩
    have same : ({ a with type } : NameAttribute).valueText? = a.valueText? := rfl
    rw [NameAttribute.text?, NameAttribute.text?, same, typeText_eq, typeText_eq, named]

/-- A name with such an attribute reads like another name. -/
theorem exists_of_attribute (full : name.IsFull) {a : NameAttribute}
    (mem : set ∈ name) (mem_set : a ∈ set)
    (unclear : a.valueText? = none ∨ a.type.isMinimal = false) :
    ∃ other : DistinguishedName, other.IsFull ∧ text other = text name ∧
      spelling other ≠ spelling name := by
  obtain ⟨b, same, differs⟩ := exists_text?_eq unclear
  let swap (x : NameAttribute) : NameAttribute := if x = a then b else x
  refine ⟨name.map (List.map swap), full.map swap, text?_congr ?_, fun spelled_alike => ?_⟩
  · rw [List.map_map]
    refine List.map_congr_left fun set _ => ?_
    rw [Function.comp_apply, List.map_map]
    refine List.map_congr_left fun x _ => ?_
    by_cases here : x = a
    · simp [swap, here, same]
    · simp [swap, here]
  · rw [spelling, spelling, List.map_map] at spelled_alike
    have set_alike := List.map_inj_left.1 spelled_alike set mem
    rw [Function.comp_apply, List.map_map] at set_alike
    have alike := List.map_inj_left.1 set_alike a mem_set
    have types : (swap a).type = a.type := (Prod.mk.inj alike).1
    rw [show swap a = b from if_pos rfl] at types
    exact differs types

/-- A name with a text reads like every name that is made of the same text in another number of
pieces. -/
theorem exists_of_parts (full : name.IsFull) (readable : name.IsReadable)
    (parts : List (Bool × Oid × String)) (opens : ∀ p ∈ parts.head?, p.1 = true)
    (same : parts.flatMap pieceText = (pieces (name.map (·.map spelled))).flatMap pieceText)
    (differs : parts.length ≠ (pieces (name.map (·.map spelled))).length) :
    ∃ other : DistinguishedName, other.IsFull ∧ text other = text name ∧
      spelling other ≠ spelling name := by
  have full_sets : ∀ set ∈ (gather parts).2, set ≠ [] := ne_nil_of_mem_gather
  refine ⟨ofTexts (gather parts).2, isFull_ofTexts full_sets, ?_, fun spelled_alike => ?_⟩
  · rw [← String.toList_inj, toList_text full readable,
      toList_text (isFull_ofTexts full_sets) (isReadable_ofTexts _), map_spelled_ofTexts,
      pieces_snd_gather opens, same]
  · rw [spelling_of_readable readable, spelling_of_readable (isReadable_ofTexts _),
      map_spelled_ofTexts] at spelled_alike
    have lengths := congrArg (fun sets => (pieces sets).length) spelled_alike
    rw [pieces_map, pieces_map, List.length_map, List.length_map, pieces_snd_gather opens]
      at lengths
    exact differs lengths

/-- A value that hides an attribute may be two of them. -/
theorem exists_of_hidden (full : name.IsFull) (readable : name.IsReadable) {a : NameAttribute}
    (mem : set ∈ name) (mem_set : a ∈ set) (hides : HidesAttribute a.spelled.2) :
    ∃ other : DistinguishedName, other.IsFull ∧ text other = text name ∧
      spelling other ≠ spelling name := by
  obtain ⟨opens, type, before, after, value⟩ := hides
  obtain ⟨here, mem_pieces⟩ := exists_mem_pieces
    (List.mem_map_of_mem (f := List.map spelled) mem) (List.mem_map_of_mem (f := spelled) mem_set)
  obtain ⟨front, rest, split⟩ := List.append_of_mem mem_pieces
  have whole : pieceText (here, a.spelled) =
      mark here a.type ++ (before ++ mark opens type ++ after) := by rw [value]; rfl
  -- The value ends in front of the mark, and what is after the mark is another value.
  refine exists_of_parts full readable (front ++ (here, a.type, String.ofList before) ::
    (opens, type, String.ofList after) :: rest) ?_ ?_ ?_
  · have first := opens_of_pieces (name.map (·.map spelled))
    rw [split] at first
    cases front with
    | nil =>
      rintro p found
      cases found
      exact first (here, a.spelled) rfl
    | cons q front => exact first
  · simp only [split, List.flatMap_append, List.flatMap_cons, whole]
    simp [pieceText]
  · simp [split]

/-- Two attributes may be a value that hides one. -/
theorem exists_of_two (full : name.IsFull) (readable : name.IsReadable)
    (two : 1 < name.flatten.length) :
    ∃ other : DistinguishedName, other.IsFull ∧ text other = text name ∧
      spelling other ≠ spelling name := by
  have first := opens_of_pieces (name.map (·.map spelled))
  have number : (pieces (name.map (·.map spelled))).length = name.flatten.length := by
    rw [pieces_map, List.length_map, length_pieces]
  rcases split : pieces (name.map (·.map spelled)) with
    _ | ⟨⟨here, type, value⟩, _ | ⟨⟨opens, type', value'⟩, rest⟩⟩
  · rw [split, List.length_nil] at number
    omega
  · rw [split, List.length_singleton] at number
    omega
  · rw [split] at first
    let merged := String.ofList (value.toList ++ mark opens type' ++ value'.toList)
    refine exists_of_parts full readable ((here, type, merged) :: rest) ?_ ?_ ?_
    · rintro p found
      cases found
      exact first (here, type, value) rfl
    · simp [split, pieceText, merged]
    · simp [split]

/-- Every name reads like another one, unless it is clear and of one attribute at most. -/
theorem exists_text_eq (full : name.IsFull)
    (unclear : ¬ (name.IsClear ∧ name.flatten.length ≤ 1)) :
    ∃ other : DistinguishedName, other.IsFull ∧ text other = text name ∧
      spelling other ≠ spelling name := by
  by_cases readable : name.IsReadable
  · by_cases few : name.flatten.length ≤ 1
    · have not_clear : ¬ name.IsClear := fun clear => unclear ⟨clear, few⟩
      simp only [IsClear, not_forall] at not_clear
      obtain ⟨set, mem, a, mem_set, hidden⟩ := not_clear
      obtain ⟨value, known⟩ := Option.isSome_iff_exists.1 (readable set mem a mem_set)
      by_cases minimal : a.type.isMinimal = true
      · have hides : HidesAttribute a.spelled.2 := by
          by_contra plain
          rw [spelled, known] at plain
          exact hidden ⟨minimal, value, known, plain⟩
        exact exists_of_hidden full readable mem mem_set hides
      · exact exists_of_attribute full mem mem_set (.inr (by simpa using minimal))
    · exact exists_of_two full readable (by omega)
  · simp only [IsReadable, not_forall] at readable
    obtain ⟨set, mem, a, mem_set, unreadable⟩ := readable
    exact exists_of_attribute full mem mem_set (.inl (by simpa using unreadable))

end DistinguishedName

end FleetIdentity
