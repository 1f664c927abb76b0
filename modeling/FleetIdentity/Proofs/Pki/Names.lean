import FleetIdentity.Pki.Authority
import FleetIdentity.Proofs.Asn1.Elements
import FleetIdentity.Proofs.Text.Utf8

/-!
# Names that were written

A name is written as sets of attributes, and reading gives the sets back in their order. Of the kind
of a value only its number is written, so that what is read has the plain identifier of that number;
texts are written with the very identifier that they have.

A name of texts in which no type is repeated is the name that an authority rebuilds from it.
-/

namespace FleetIdentity

open Asn1

namespace NameAttribute

/-- The attribute as it is read after it was written. -/
def plain (a : NameAttribute) : NameAttribute where
  type := a.type
  value := ⟨.ofOctet (UInt8.ofNat a.value.identifier.number), a.value.content⟩

/-- The number of the kind of the value goes in one octet. -/
def IsShort (a : NameAttribute) : Prop :=
  (UInt8.ofNat a.value.identifier.number).toNat % 32 ≠ 31

theorem reads_write {a : NameAttribute} (short : a.IsShort) (fits : Fits a.write) :
    Reads NameAttribute.read? a.write a.plain := by
  intro rest
  have type_fits : Fits (writeTag .oid a.type) := fits.of_mem (by simp)
  have value_fits : Fits (Asn1.write (UInt8.ofNat a.value.identifier.number) a.value.content) :=
    fits.of_mem (by simp)
  have value := (Asn1.reads_write short value_fits.of_write).alone
  rw [read?, NameAttribute.write, Asn1.sequence, reads_expect? _ fits.of_write]
  simp only [Option.bind_eq_bind, Option.bind_some, List.flatten_cons, List.flatten_nil,
    List.append_nil, reads_primitive? .oid rfl type_fits.of_write _, value]
  rfl

theorem read?_nil : NameAttribute.read? [] = none := rfl

theorem write_ne_nil (a : NameAttribute) : a.write ≠ [] :=
  Asn1.write_ne_nil _ _

theorem plain_ofText (type : Oid) (text : String) :
    (ofText type text).plain = ofText type text := by
  have identifier : Identifier.ofOctet (UInt8.ofNat 12) = ⟨0, false, 12⟩ := by decide
  show NameAttribute.mk _ ⟨Identifier.ofOctet (UInt8.ofNat 12), _⟩ = _
  rw [identifier]
  rfl

theorem isShort_ofText (type : Oid) (text : String) : (ofText type text).IsShort := by
  show (UInt8.ofNat 12).toNat % 32 ≠ 31
  decide

theorem plainText?_ofText (type : Oid) (text : String) :
    (ofText type text).plainText? = some text := by
  have tagged : (ofText type text).hasTag plainStrings = true := rfl
  rw [plainText?, if_pos tagged, Utf8.toString?, ofText, Utf8.ofString, Utf8.decode?_encode,
    Option.map_some, String.ofList_toList]

theorem isUsableValue_ofText (type : Oid) (text : String) :
    CertificateAuthority.isUsableValue (ofText type text) = true := by
  have tagged : (ofText type text).hasTag [.utf8String] = true := rfl
  simp only [CertificateAuthority.isUsableValue]
  rw [if_pos tagged, ofText, Utf8.ofString, Utf8.decode?_encode]
  rfl

end NameAttribute

namespace DistinguishedName

/-- The octets of a set of attributes. -/
def writeSet (attributes : List NameAttribute) : Octets :=
  writeTag .set (attributes.map NameAttribute.write).flatten

theorem reads_writeSet {attributes : List NameAttribute} (ne_nil : attributes ≠ [])
    (short : ∀ a ∈ attributes, a.IsShort) (fits : Fits (writeSet attributes)) :
    Reads readSet? (writeSet attributes) (attributes.map NameAttribute.plain) := by
  intro rest
  have each : ReadsEach NameAttribute.read? NameAttribute.write NameAttribute.plain attributes := by
    refine ⟨fun a mem => NameAttribute.reads_write (short a mem) ?_,
      fun a _ => a.write_ne_nil⟩
    exact fits.of_write.of_le
      (List.sublist_flatten_of_mem (List.mem_map_of_mem mem)).length_le
  rw [readSet?, writeSet, reads_expect? _ fits.of_write]
  simp only [Option.bind_eq_bind, Option.bind_some]
  rw [many_of_readsEach each NameAttribute.read?_nil (length_le_flatten each.ne_nil)]
  cases attributes with
  | nil => exact absurd rfl ne_nil
  | cons a attributes => rfl

theorem reads_write {name : DistinguishedName} (ne_nil : ∀ set ∈ name, set ≠ [])
    (short : ∀ set ∈ name, ∀ a ∈ set, a.IsShort) (fits : Fits (write name)) :
    Reads read? (write name) (name.map fun set => set.map NameAttribute.plain) := by
  intro rest
  have each : ReadsEach readSet? writeSet (fun set => set.map NameAttribute.plain) name := by
    refine ⟨fun set mem => reads_writeSet (ne_nil set mem) (short set mem) ?_,
      fun set _ => Asn1.write_ne_nil _ _⟩
    exact fits.of_mem (List.mem_map_of_mem mem)
  have written : write name = writeTag .sequence (name.map writeSet).flatten := rfl
  rw [written] at fits ⊢
  rw [read?, reads_expect? _ fits.of_write]
  simp only [Option.bind_eq_bind, Option.bind_some]
  rw [many_of_readsEach each rfl (length_le_flatten each.ne_nil)]
  rfl

/-- Sets of one attribute at least, whose values have the plain identifiers of short kinds. -/
def IsPlain (name : DistinguishedName) : Prop :=
  ∀ set ∈ name, set ≠ [] ∧ ∀ a ∈ set, a.IsShort ∧ a.plain = a

theorem IsPlain.reads_write {name : DistinguishedName} (plain : IsPlain name)
    (fits : Fits (write name)) : Reads read? (write name) name := by
  have same_set : ∀ set ∈ name, set.map NameAttribute.plain = set := fun set mem =>
    (List.map_congr_left fun a ha => ((plain set mem).2 a ha).2).trans (List.map_id' set)
  have same : name.map (fun set => set.map NameAttribute.plain) = name :=
    (List.map_congr_left same_set).trans (List.map_id' name)
  have read := DistinguishedName.reads_write (fun set mem => (plain set mem).1)
    (fun set mem a ha => ((plain set mem).2 a ha).1) fits
  rwa [same] at read

/-- The names of texts are plain. -/
theorem isPlain_ofTexts (texts : List (Oid × String)) :
    IsPlain (ofAttributes (texts.map fun t => NameAttribute.ofText t.1 t.2)) := by
  intro set mem
  obtain ⟨a, ha, rfl⟩ := List.mem_map.1 mem
  obtain ⟨t, _, rfl⟩ := List.mem_map.1 ha
  refine ⟨List.cons_ne_nil _ _, fun b hb => ?_⟩
  rw [List.mem_singleton.1 hb]
  exact ⟨NameAttribute.isShort_ofText _ _, NameAttribute.plain_ofText _ _⟩

end DistinguishedName

namespace CertificateAuthority

variable {attributes : List NameAttribute}

theorem usableAttributes?_ofAttributes
    (usable : ∀ a ∈ attributes, isUsableType a.type = true ∧ isUsableValue a = true) :
    usableAttributes? (DistinguishedName.ofAttributes attributes) = some attributes := by
  rw [usableAttributes?, DistinguishedName.ofAttributes, List.mapM_map]
  induction attributes with
  | nil => rfl
  | cons a attributes ih =>
    have later := ih fun b hb => usable b (List.mem_cons_of_mem _ hb)
    rw [List.mapM_cons, later]
    show ((if (isUsableType a.type && isUsableValue a) = true then some a else none) >>= _) = _
    rw [if_pos (Bool.and_eq_true_iff.2 (usable a List.mem_cons_self))]
    rfl

/-- An attribute of a new type comes last. -/
theorem insertAttribute_of_not_mem {placed : List NameAttribute} {a : NameAttribute}
    (fresh : a.type.toArcs ∉ placed.map (·.type.toArcs)) :
    insertAttribute placed a = placed ++ [a] := by
  have absent : placed.any (·.type.toArcs == a.type.toArcs) = false := by
    rw [List.any_eq_false]
    exact fun b mem same => fresh (List.mem_map.2 ⟨b, mem, beq_iff_eq.1 same⟩)
  rw [insertAttribute, absent]
  rfl

theorem foldl_insertAttribute {placed : List NameAttribute}
    (distinct : ((placed ++ attributes).map (·.type.toArcs)).Nodup) :
    attributes.foldl insertAttribute placed = placed ++ attributes := by
  induction attributes generalizing placed with
  | nil => exact (List.append_nil placed).symm
  | cons a attributes ih =>
    have fresh : a.type.toArcs ∉ placed.map (·.type.toArcs) := by
      rw [List.map_append, List.nodup_append] at distinct
      exact fun mem => distinct.2.2 _ mem _ (List.mem_map_of_mem List.mem_cons_self) rfl
    rw [List.foldl_cons, insertAttribute_of_not_mem fresh, ih (by rwa [List.append_assoc]),
      List.append_assoc]
    rfl

/-- Nothing is left out where no type is repeated. -/
theorem foldl_insertAttribute_of_nodup (distinct : (attributes.map (·.type.toArcs)).Nodup) :
    attributes.foldl insertAttribute [] = attributes :=
  @foldl_insertAttribute attributes [] distinct

theorem rebuild_of_nodup (distinct : (attributes.map (·.type.toArcs)).Nodup) :
    rebuild attributes = DistinguishedName.ofAttributes (attributes.map rewritten) := by
  rw [rebuild, foldl_insertAttribute_of_nodup distinct]

/-- A text under a type of the fewest octets is written anew as it is. -/
theorem rewritten_ofText {type : Oid} (shortest : type.shortest = type) (text : String) :
    rewritten (NameAttribute.ofText type text) = NameAttribute.ofText type text := by
  show { (NameAttribute.ofText type text).plain with type := type.shortest } = _
  rw [NameAttribute.plain_ofText, shortest]
  rfl

/-- Types that can be signed with in the fewest octets, none of them twice. -/
structure AreRegular (types : List Oid) : Prop where
  distinct : (types.map Oid.toArcs).Nodup
  usable : ∀ type ∈ types, isUsableType type = true
  shortest : ∀ type ∈ types, type.shortest = type

variable {texts : List (Oid × String)}

theorem usableAttributes?_ofTexts (types : ∀ t ∈ texts, isUsableType t.1 = true) :
    usableAttributes? (.ofAttributes (texts.map fun t => NameAttribute.ofText t.1 t.2)) =
      some (texts.map fun t => NameAttribute.ofText t.1 t.2) := by
  refine usableAttributes?_ofAttributes fun a mem => ?_
  obtain ⟨t, listed, rfl⟩ := List.mem_map.1 mem
  exact ⟨types t listed, NameAttribute.isUsableValue_ofText _ _⟩

/-- A name of texts under regular types is rebuilt as it is. -/
theorem AreRegular.rebuild_ofTexts (regular : AreRegular (texts.map (·.1))) :
    rebuild (texts.map fun t => NameAttribute.ofText t.1 t.2) =
      .ofAttributes (texts.map fun t => NameAttribute.ofText t.1 t.2) := by
  have distinct := regular.distinct
  rw [List.map_map] at distinct
  rw [rebuild_of_nodup (by rw [List.map_map]; exact distinct), List.map_map]
  refine congrArg DistinguishedName.ofAttributes (List.map_congr_left fun t mem => ?_)
  exact rewritten_ofText (regular.shortest t.1 (List.mem_map_of_mem mem)) t.2

end CertificateAuthority

end FleetIdentity
