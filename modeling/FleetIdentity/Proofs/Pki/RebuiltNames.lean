import FleetIdentity.Proofs.Pki.NameTypes
import FleetIdentity.Proofs.Pki.Names
import Mathlib.Algebra.GroupWithZero.Nat
import Mathlib.Data.List.Nodup

/-!
# The name that an authority signs under

An authority signs under its own name rebuilt: a later attribute takes the place of an earlier one
of the same type, and types are written in as few octets as their arcs take. Names are compared by
their texts. Every attribute shows at least one sign between type and value, and no type shows more,
so that an attribute which is left out makes the signs fewer; and a type that is called otherwise
after it was written anew makes a difference in front of its sign. So the rebuilt name reads like
the name of the certificate exactly if no type is repeated there and none is a longer form of one
that has a short name.
-/

namespace FleetIdentity

open Asn1 CertificateAuthority

/-! ### Values that can be signed with -/

theorem Utf8.decode?_of_ascii {octets : Octets} (ascii : ∀ x ∈ octets, x.toNat < 128) :
    ∃ text, decode? octets = some text := by
  induction octets with
  | nil => exact ⟨[], rfl⟩
  | cons x octets ih =>
    obtain ⟨text, rest⟩ := ih fun y mem => ascii y (List.mem_cons_of_mem x mem)
    refine ⟨Char.ofNat x.toNat :: text, ?_⟩
    rw [decode?_one octets (ascii x List.mem_cons_self), rest, Option.map_some]

theorem CertificateAuthority.ascii_of_isPrintable {x : UInt8} (printable : isPrintable x = true) :
    x.toNat < 128 := by
  have all : ∀ n < 256, isPrintable (UInt8.ofNat n) = true → n < 128 := by decide +kernel
  have same : UInt8.ofNat x.toNat = x := UInt8.ofNat_toNat
  exact all x.toNat x.toNat_lt (same.symm ▸ printable)

namespace NameAttribute

variable {a : NameAttribute}

theorem hasTag_singleton {tag : Tag} :
    a.hasTag [tag] = true ↔ a.value.identifier.number = tag.number := by
  rw [hasTag, List.any_cons, List.any_nil, Bool.or_false, beq_iff_eq, eq_comm]

theorem ofUnits?_of_no_surrogate {units : List Nat}
    (plain : ∀ n ∈ units, n < 0xD800 ∨ 0xE000 ≤ n) : ∃ text, ofUnits? units = some text := by
  induction units with
  | nil => exact ⟨[], rfl⟩
  | cons n units ih =>
    obtain ⟨text, rest⟩ := ih fun m mem => plain m (List.mem_cons_of_mem n mem)
    have here := plain n List.mem_cons_self
    refine ⟨Char.ofNat n :: text, ?_⟩
    rw [ofUnits?.eq_def]
    dsimp only
    rw [if_neg (by omega), if_neg (by omega), rest, Option.map_some]

/-- The numbers of the kinds of string whose octets are taken for UTF-8 and can be signed with. -/
def usableOctetStrings : List Nat := [12, 19, 22, 20]

/-- All that a value can be which can be signed with. -/
theorem usable_cases (usable : isUsableValue a = true) :
    (a.value.identifier.number ∈ usableOctetStrings ∧
        ∃ text, Utf8.decode? a.value.content = some text) ∨
      (a.value.identifier.number = 30 ∧
        ∃ text, (units? a.value.content).bind ofUnits? = some text) ∨
      a.value.identifier.number = 28 := by
  simp only [isUsableValue, hasTag_singleton] at usable
  split at usable
  · next utf8 => exact .inl ⟨by rw [utf8]; decide, Option.isSome_iff_exists.1 usable⟩
  split at usable
  · next printable =>
    refine .inl ⟨by rw [printable]; decide, Utf8.decode?_of_ascii fun x mem => ?_⟩
    exact ascii_of_isPrintable (List.all_eq_true.1 usable x mem)
  split at usable
  · next ia5 =>
    refine .inl ⟨by rw [ia5]; decide, Utf8.decode?_of_ascii fun x mem => ?_⟩
    exact of_decide_eq_true (List.all_eq_true.1 usable x mem)
  split at usable
  · next t61 =>
    refine .inl ⟨by rw [t61]; decide, Utf8.decode?_of_ascii fun x mem => ?_⟩
    have bounds := List.all_eq_true.1 usable x mem
    exact of_decide_eq_true (Bool.and_eq_true_iff.1 bounds).2
  split at usable
  · next bmp =>
    split at usable
    · next units read =>
      have no_surrogate : ∀ n ∈ units, n < 0xD800 ∨ 0xE000 ≤ n := by
        intro n mem
        have bounds := List.all_eq_true.1 usable n mem
        simp only [Bool.and_eq_true, Bool.not_eq_true', Bool.and_eq_false_iff,
          decide_eq_true_eq, decide_eq_false_iff_not] at bounds
        omega
      obtain ⟨text, known⟩ := ofUnits?_of_no_surrogate no_surrogate
      exact .inr (.inl ⟨bmp, text, by rw [read, Option.bind_some, known]⟩)
    · cases usable
  split at usable
  · next universal => exact .inr (.inr universal)
  · cases usable

theorem number_plain (usable : isUsableValue a = true) :
    a.plain.value.identifier.number = a.value.identifier.number := by
  have short : ∀ n ∈ 30 :: 28 :: usableOctetStrings, (UInt8.ofNat n).toNat % 32 = n := by decide
  refine short _ ?_
  rcases usable_cases usable with ⟨octets, _⟩ | ⟨bmp, _⟩ | universal
  · exact List.mem_cons_of_mem _ (List.mem_cons_of_mem _ octets)
  · rw [bmp]
    decide
  · rw [universal]
    decide

/-- What is made anew of a usable attribute is read as it was written. -/
theorem plain_rewritten (usable : isUsableValue a = true) :
    (rewritten a).IsShort ∧ (rewritten a).plain = rewritten a := by
  have number : (rewritten a).value.identifier.number = a.value.identifier.number :=
    number_plain usable
  constructor
  · rw [IsShort, number]
    intro long
    -- The number that is read is the remainder that must not be 31.
    have kinds : a.value.identifier.number ≠ 31 := by
      rcases usable_cases usable with ⟨octets, _⟩ | ⟨bmp, _⟩ | universal
      · rintro other
        rw [other] at octets
        revert octets
        decide
      · omega
      · omega
    exact kinds (number.symm.trans long)
  · rw [plain, number]
    rfl

theorem valueText?_rewritten (usable : isUsableValue a = true) :
    (rewritten a).valueText? = a.valueText? := by
  have number : (rewritten a).value.identifier.number = a.value.identifier.number :=
    number_plain usable
  have tags (tags : List Tag) : (rewritten a).hasTag tags = a.hasTag tags := by
    rw [hasTag, hasTag, number]
  rw [valueText?, valueText?, tags, tags]
  rfl

theorem isSome_valueText? (usable : isUsableValue a = true) : a.valueText?.isSome = true := by
  have octets_tagged : ∀ n ∈ usableOctetStrings,
      octetStrings.any (fun tag => tag.number == n) = true := by decide
  rw [valueText?, hasTag, hasTag]
  rcases usable_cases usable with ⟨octets, text, read⟩ | ⟨bmp, text, read⟩ | universal
  · rw [if_pos (octets_tagged _ octets), Utf8.toString?, read]
    rfl
  · rw [bmp, if_neg (by decide), if_pos (by decide), read]
    rfl
  · rw [universal, if_neg (by decide), if_neg (by decide)]
    rfl

/-- Type and value in one text, which every usable attribute has. -/
def shown (a : NameAttribute) : String :=
  a.text?.getD ""

theorem text?_of_readable (readable : a.valueText?.isSome = true) : a.text? = some a.shown := by
  obtain ⟨value, known⟩ := Option.isSome_iff_exists.1 readable
  rw [shown, text?, known]
  rfl

theorem toList_shown (readable : a.valueText?.isSome = true) : a.shown.toList =
    (typeName a.type).toList ++ '=' :: (a.valueText?.getD "").toList := by
  obtain ⟨value, known⟩ := Option.isSome_iff_exists.1 readable
  have text : a.shown = typeName a.type ++ "=" ++ value := by
    rw [shown, text?, known]
    rfl
  rw [text, known]
  simp

/-- How many signs `=` the text of an attribute has. -/
def signs (a : NameAttribute) : Nat :=
  a.shown.toList.count '='

theorem signs_eq (readable : a.valueText?.isSome = true) :
    a.signs = (a.valueText?.getD "").toList.count '=' + 1 := by
  have none_in_type : '=' ∉ (typeName a.type).toList := fun mem =>
    absurd (isTypeChar_of_mem_typeName mem) (by decide)
  rw [signs, toList_shown readable, List.count_append, List.count_eq_zero.2 none_in_type,
    List.count_cons_self, Nat.zero_add]

/-- To be written anew changes the name of the type at most. -/
theorem signs_rewritten (usable : isUsableValue a = true) : (rewritten a).signs = a.signs := by
  have readable := isSome_valueText? usable
  have same := valueText?_rewritten usable
  rw [signs_eq readable, signs_eq (same ▸ readable), same]

end NameAttribute

namespace DistinguishedName

open NameAttribute

variable {attributes : List NameAttribute}

/-- The text of attributes that each stand alone. -/
def joined (attributes : List NameAttribute) : String :=
  String.intercalate ", " (attributes.map NameAttribute.shown)

theorem text_ofAttributes (readable : ∀ a ∈ attributes, a.valueText?.isSome = true) :
    text (ofAttributes attributes) = joined attributes := by
  have all : (ofAttributes attributes).mapM setText? =
      some (attributes.map NameAttribute.shown) := by
    rw [ofAttributes, List.mapM_map]
    induction attributes with
    | nil => rfl
    | cons a attributes ih =>
      have later := ih fun b mem => readable b (List.mem_cons_of_mem a mem)
      have first : setText? [a] = some a.shown := by
        rw [setText?, List.mapM_cons, text?_of_readable (readable a List.mem_cons_self)]
        exact congrArg some String.intercalate_singleton
      rw [List.mapM_cons, later, Function.comp_apply, first]
      rfl
  rw [text, text?, all]
  rfl

theorem flatten_ofAttributes (attributes : List NameAttribute) :
    (ofAttributes attributes).flatten = attributes := by
  induction attributes with
  | nil => rfl
  | cons a attributes ih => exact congrArg (a :: ·) ih

theorem joined_cons_cons (a b : NameAttribute) (attributes : List NameAttribute) :
    (joined (a :: b :: attributes)).toList =
      a.shown.toList ++ ", ".toList ++ (joined (b :: attributes)).toList := by
  rw [joined, List.map_cons, List.map_cons, String.intercalate_cons_cons, String.toList_append,
    String.toList_append]
  rfl

/-- The signs in the text of attributes are those of the attributes. -/
theorem count_joined (attributes : List NameAttribute) :
    (joined attributes).toList.count '=' = (attributes.map signs).sum := by
  induction attributes with
  | nil => rfl
  | cons a attributes ih =>
    cases attributes with
    | nil =>
      rw [joined, List.map_singleton, String.intercalate_singleton]
      rfl
    | cons b attributes =>
      have separator : (", ".toList).count '=' = 0 := by decide
      rw [joined_cons_cons, List.count_append, List.count_append, ih, separator]
      rfl

/-- Where only types are written anew, a text that stays shows that their names stay. -/
theorem typeName_of_joined (usable : ∀ a ∈ attributes, isUsableValue a = true)
    (same : joined (attributes.map rewritten) = joined attributes) :
    ∀ a ∈ attributes, typeName a.type.shortest = typeName a.type := by
  -- The induction takes the attributes that read alike off the front of both texts.
  induction attributes with
  | nil => exact List.forall_mem_nil _
  | cons a attributes ih =>
    have readable := isSome_valueText? (usable a List.mem_cons_self)
    have value_eq := valueText?_rewritten (usable a List.mem_cons_self)
    have shown_eq : (rewritten a).shown.toList =
        (typeName a.type.shortest).toList ++ '=' :: (a.valueText?.getD "").toList := by
      rw [toList_shown (value_eq ▸ readable), value_eq]
      rfl
    have same := congrArg String.toList same
    cases attributes with
    | nil =>
      rw [joined, joined, List.map_singleton, List.map_singleton, List.map_singleton,
        String.intercalate_singleton, String.intercalate_singleton, shown_eq,
        toList_shown readable] at same
      exact List.forall_mem_singleton.2 (typeName_of_append same).1
    | cons b attributes =>
      rw [List.map_cons, List.map_cons, joined_cons_cons, joined_cons_cons, shown_eq,
        toList_shown readable] at same
      simp only [List.append_assoc, List.cons_append] at same
      obtain ⟨name_eq, rest⟩ := typeName_of_append same
      have later := List.append_cancel_left (List.append_cancel_left rest)
      exact List.forall_mem_cons.2 ⟨name_eq,
        ih (fun x mem => usable x (List.mem_cons_of_mem a mem)) (String.toList_inj.1 later)⟩

end DistinguishedName

namespace CertificateAuthority

open DistinguishedName NameAttribute

variable {attributes placed : List NameAttribute} {a : NameAttribute}

/-- The attributes of a name are those that it is made of, each in a set of its own. -/
theorem usableAttributes?_eq_some {name : DistinguishedName}
    (usable : usableAttributes? name = some attributes) :
    name = ofAttributes attributes ∧ ∀ a ∈ attributes, isUsableValue a = true := by
  rw [usableAttributes?] at usable
  induction name generalizing attributes with
  | nil =>
    obtain rfl : [] = attributes := Option.some.inj usable
    exact ⟨rfl, List.forall_mem_nil _⟩
  | cons set name ih =>
    rw [List.mapM_cons, Option.bind_eq_bind, Option.bind_eq_some_iff] at usable
    obtain ⟨a, single, rest⟩ := usable
    rw [Option.bind_eq_bind, Option.bind_eq_some_iff] at rest
    obtain ⟨others, read, made⟩ := rest
    cases made
    obtain ⟨rfl, others_usable⟩ := ih read
    rcases set with _ | ⟨b, _ | ⟨c, more⟩⟩
    · cases single
    · by_cases may : (isUsableType b.type && isUsableValue b) = true
      · cases (if_pos may).symm.trans single
        exact ⟨rfl, List.forall_mem_cons.2 ⟨(Bool.and_eq_true_iff.1 may).2, others_usable⟩⟩
      · cases (if_neg may).symm.trans single
    · cases single

/-! ### One attribute for each type -/

/-- An attribute of a type that is there takes the place of the one attribute of this type. -/
theorem insertAttribute_of_mem (distinct : (placed.map (·.type.toArcs)).Nodup)
    (taken : a.type.toArcs ∈ placed.map (·.type.toArcs)) : ∃ before b after,
      placed = before ++ b :: after ∧ b.type.toArcs = a.type.toArcs ∧
        insertAttribute placed a = before ++ a :: after := by
  obtain ⟨b, mem, same⟩ := List.mem_map.1 taken
  obtain ⟨before, after, rfl⟩ := List.append_of_mem mem
  refine ⟨before, b, after, rfl, same, ?_⟩
  have present : (before ++ b :: after).any (·.type.toArcs == a.type.toArcs) = true :=
    List.any_eq_true.2 ⟨b, mem, beq_iff_eq.2 same⟩
  rw [List.map_append, List.map_cons, List.nodup_append, List.nodup_cons, same] at distinct
  obtain ⟨_, ⟨not_after, _⟩, not_before⟩ := distinct
  -- No other attribute has the type, so that all others stay.
  have stays (others : List NameAttribute)
      (absent : a.type.toArcs ∉ others.map (·.type.toArcs)) :
      others.map (fun x => if x.type.toArcs = a.type.toArcs then a else x) = others :=
    (List.map_congr_left fun x hx => if_neg fun eq => absent (List.mem_map.2 ⟨x, hx, eq⟩)).trans
      (List.map_id' others)
  have front : a.type.toArcs ∉ before.map (·.type.toArcs) := fun mem =>
    not_before _ mem _ List.mem_cons_self rfl
  rw [insertAttribute, if_pos present, List.map_append, List.map_cons, if_pos same,
    stays before front, stays after not_after]

theorem mem_insertAttribute {b : NameAttribute} (mem : b ∈ insertAttribute placed a) :
    b ∈ placed ∨ b = a := by
  rw [insertAttribute] at mem
  split at mem
  · obtain ⟨x, hx, rfl⟩ := List.mem_map.1 mem
    split
    · exact .inr rfl
    · exact .inl hx
  · rwa [List.mem_append, List.mem_singleton] at mem

theorem mem_foldl_insertAttribute {b : NameAttribute}
    (mem : b ∈ attributes.foldl insertAttribute placed) : b ∈ placed ∨ b ∈ attributes := by
  induction attributes generalizing placed with
  | nil => exact .inl mem
  | cons a attributes ih =>
    rcases ih mem with inserted | later
    · rcases mem_insertAttribute inserted with known | rfl
      · exact .inl known
      · exact .inr List.mem_cons_self
    · exact .inr (List.mem_cons_of_mem a later)

/-- The attributes that are left have no more signs than all, and fewer if one took the place of
another. -/
theorem signs_foldl_insertAttribute (distinct : (placed.map (·.type.toArcs)).Nodup)
    (signed : ∀ a ∈ placed ++ attributes, 0 < a.signs) :
    ((attributes.foldl insertAttribute placed).map signs).sum ≤
        ((placed ++ attributes).map signs).sum ∧
      (¬ ((placed ++ attributes).map (·.type.toArcs)).Nodup →
        ((attributes.foldl insertAttribute placed).map signs).sum <
          ((placed ++ attributes).map signs).sum) := by
  induction attributes generalizing placed with
  | nil =>
    rw [List.append_nil]
    exact ⟨Nat.le_refl _, fun repeated => absurd distinct repeated⟩
  | cons a attributes ih =>
    rw [List.foldl_cons]
    by_cases taken : a.type.toArcs ∈ placed.map (·.type.toArcs)
    · obtain ⟨before, b, after, rfl, same, inserted⟩ := insertAttribute_of_mem distinct taken
      have distinct' : ((before ++ a :: after).map (·.type.toArcs)).Nodup := by
        rw [List.map_append, List.map_cons] at distinct ⊢
        rwa [← same]
      have replaced := signed b (by simp)
      have fewer := (ih distinct' fun x mem => signed x (by simp at mem ⊢; tauto)).1
      rw [inserted]
      simp only [List.map_append, List.map_cons, List.sum_append, List.sum_cons] at fewer ⊢
      exact ⟨by omega, fun _ => by omega⟩
    · have distinct' : ((placed ++ [a]).map (·.type.toArcs)).Nodup := by
        rw [List.map_append, List.nodup_append_comm]
        exact List.nodup_cons.2 ⟨taken, distinct⟩
      have later := ih distinct' (by rwa [List.append_assoc])
      rw [List.append_assoc, List.singleton_append] at later
      rw [insertAttribute_of_not_mem taken]
      exact later

theorem usable_placed (usable : ∀ a ∈ attributes, isUsableValue a = true) :
    ∀ a ∈ attributes.foldl insertAttribute [], isUsableValue a = true := by
  intro a mem
  rcases mem_foldl_insertAttribute mem with none | given
  · cases none
  · exact usable a given

/-- The rebuilt name is read as it was written. -/
theorem isPlain_rebuild (usable : ∀ a ∈ attributes, isUsableValue a = true) :
    IsPlain (rebuild attributes) := by
  intro set mem
  obtain ⟨b, hb, rfl⟩ := List.mem_map.1 mem
  obtain ⟨a, ha, rfl⟩ := List.mem_map.1 hb
  refine ⟨List.cons_ne_nil _ _, fun b hb => ?_⟩
  rw [List.mem_singleton.1 hb]
  exact plain_rewritten (usable_placed usable a ha)

/-- What an authority signs under is read as it was written. -/
theorem isPlain_issuerName? {c : Certificate} {name : DistinguishedName}
    (named : issuerName? c = some name) : IsPlain name := by
  obtain ⟨attributes, usable, named⟩ := Option.bind_eq_some_iff.1 named
  split at named
  · cases named
    exact isPlain_rebuild (usableAttributes?_eq_some usable).2
  · cases named

theorem text_rebuild (usable : ∀ a ∈ attributes, isUsableValue a = true) :
    text (rebuild attributes) =
      joined ((attributes.foldl insertAttribute []).map rewritten) := by
  refine text_ofAttributes fun b mem => ?_
  obtain ⟨a, ha, rfl⟩ := List.mem_map.1 mem
  rw [valueText?_rewritten (usable_placed usable a ha)]
  exact isSome_valueText? (usable_placed usable a ha)

theorem count_text_rebuild (usable : ∀ a ∈ attributes, isUsableValue a = true) :
    (text (rebuild attributes)).toList.count '=' =
      ((attributes.foldl insertAttribute []).map signs).sum := by
  rw [text_rebuild usable, count_joined, List.map_map]
  refine congrArg List.sum (List.map_congr_left fun a mem => ?_)
  exact signs_rewritten (usable_placed usable a mem)

/-- The rebuilt name reads like the name of the certificate exactly if no type is repeated there and
every type is called the same after it was written anew. -/
theorem text_rebuild_eq_iff (usable : ∀ a ∈ attributes, isUsableValue a = true) :
    text (rebuild attributes) = text (ofAttributes attributes) ↔
      (attributes.map (·.type.toArcs)).Nodup ∧
        ∀ a ∈ attributes, typeName a.type.shortest = typeName a.type := by
  have readable : ∀ a ∈ attributes, a.valueText?.isSome = true :=
    fun a mem => isSome_valueText? (usable a mem)
  constructor
  · intro same
    have distinct : (attributes.map (·.type.toArcs)).Nodup := by
      by_contra repeated
      have signed : ∀ a ∈ [] ++ attributes, 0 < a.signs := fun a mem => by
        rw [signs_eq (readable a mem)]
        exact Nat.succ_pos _
      have fewer := (@signs_foldl_insertAttribute attributes [] List.nodup_nil signed).2 repeated
      rw [← count_text_rebuild usable, same, text_ofAttributes readable, count_joined] at fewer
      exact Nat.lt_irrefl _ fewer
    rw [text_rebuild usable, foldl_insertAttribute_of_nodup distinct,
      text_ofAttributes readable] at same
    exact ⟨distinct, typeName_of_joined usable same⟩
  · rintro ⟨distinct, named⟩
    rw [text_rebuild usable, foldl_insertAttribute_of_nodup distinct, text_ofAttributes readable]
    have shown_eq : ∀ a ∈ attributes, (rewritten a).shown = a.shown := by
      intro a mem
      have value_eq := valueText?_rewritten (usable a mem)
      have type_eq : typeName (rewritten a).type = typeName a.type := named a mem
      rw [← String.toList_inj, toList_shown (readable a mem),
        toList_shown (value_eq ▸ readable a mem), value_eq, type_eq]
    rw [joined, joined, List.map_map]
    exact congrArg (String.intercalate ", ") (List.map_congr_left shown_eq)

/-- What an authority signs under reads like the name in its certificate exactly if no type is
repeated there and none is a longer form of one that has a short name. -/
theorem text_issuerName?_eq_iff {c : Certificate} {name : DistinguishedName}
    (named : issuerName? c = some name) : name.text = c.subjectText ↔
      (c.subject.flatten.map (·.type.toArcs)).Nodup ∧
        ∀ a ∈ c.subject.flatten,
          a.type.shortest ∈ shortNames.map Prod.fst → a.type.shortest = a.type := by
  obtain ⟨attributes, usable, named⟩ := Option.bind_eq_some_iff.1 named
  obtain ⟨subject_eq, all_usable⟩ := usableAttributes?_eq_some usable
  split at named
  · cases named
    rw [Certificate.subjectText, subject_eq, flatten_ofAttributes, text_rebuild_eq_iff all_usable]
    simp only [typeName_shortest_eq_iff]
  · cases named

end CertificateAuthority

end FleetIdentity
