import FleetIdentity.Datum.Record
import FleetIdentity.Proofs.Datum.JsonText

/-!
# Records are read from the objects that were written of them

A reader of a record is put together from fields, and so is what it needs: that each field finds a
value that it takes under its name, or has a default and finds none. Then the object is read as the
record of these values; members that are no fields are passed over.
-/

namespace FleetIdentity

/-! ### Trees of values are whole -/

namespace Json

mutual

theorem isWhole_toDatum (j : Json) : j.toDatum.isWhole = true := by
  cases j with
  | null => rfl
  | bool b => rfl
  | integer n =>
    rw [toDatum, JsonReader.whole]
    split
    · split <;> rfl
    · split <;> rfl
  | text s => rfl
  | list items => exact areWhole_toData items
  | object members => exact haveWholeValues_toEntries members

theorem areWhole_toData (items : List Json) : Datum.areWhole (toData items) = true := by
  match items with
  | [] => rfl
  | item :: rest =>
    rw [toData, Datum.areWhole, isWhole_toDatum item, areWhole_toData rest]
    rfl

theorem haveWholeValues_toEntries (members : List (String × Json)) :
    Datum.haveWholeValues (toEntries members) = true := by
  match members with
  | [] => rfl
  | (name, value) :: rest =>
    rw [toEntries, Datum.haveWholeValues, isWhole_toDatum value, haveWholeValues_toEntries rest]
    rfl

end

theorem lookup_toEntries (members : List (String × Json)) (name : String) :
    (toEntries members).lookup (some name) = (members.lookup name).map toDatum := by
  induction members with
  | nil => rfl
  | cons m members ih =>
    obtain ⟨other, value⟩ := m
    have beq : (some name == some other) = (name == other) := rfl
    rw [toEntries, List.lookup_cons, List.lookup_cons, beq]
    cases name == other with
    | true => rfl
    | false => exact ih

/-- An integer of 64 bits is read as that integer. -/
theorem toDatum_integer {n : Int} (low : -2 ^ 63 ≤ n) (high : n < 2 ^ 63) :
    (integer n).toDatum = .integer n := by
  rw [toDatum, JsonReader.whole]
  by_cases negative : n < 0
  · rw [if_pos (by simpa using negative), if_pos (by omega)]
    congr
    omega
  · rw [if_neg (by simpa using negative), if_pos (by omega)]
    congr
    omega

end Json

namespace RecordReader

variable {α β : Type} {r : RecordReader α} {f : RecordReader (α → β)} {g : α → β} {a : α}
  {members : List (String × Json)} {name : String} {item : Json}
  {value : Datum → Except DatumFault α}

/-- The members have all that the fields of a record need, and make the record. -/
structure Reads (r : RecordReader α) (members : List (String × Json)) (a : α) : Prop where
  /-- A field takes the member of its name, if there is one. -/
  takes : ∀ name check, (name, check) ∈ r.fields → ∀ item, members.lookup name = some item →
    check item.toDatum = .ok ()
  makes : r.ofEntries (fun name => (members.lookup name).map Json.toDatum) = .ok a

namespace Reads

/-- A field finds its value. -/
theorem field {default : Option α} (found : members.lookup name = some item)
    (reads : value item.toDatum = .ok a) :
    (RecordReader.field name value default).Reads members a where
  takes := by
    intro other check mem other_item other_found
    cases List.mem_singleton.1 mem
    cases found.symm.trans other_found
    show (value item.toDatum).map _ = _
    rw [reads]
    rfl
  makes := by
    simp only [RecordReader.field, found, Option.map_some]
    exact reads

/-- A field has a default, and there is no value. -/
theorem absent (none_found : members.lookup name = none) :
    (withDefault name value a).Reads members a where
  takes := by
    intro other check mem other_item other_found
    cases List.mem_singleton.1 mem
    cases none_found.symm.trans other_found
  makes := by
    simp only [withDefault, RecordReader.field, none_found, Option.map_none]

theorem seq (left : f.Reads members g) (right : r.Reads members a) :
    (f <*> r).Reads members (g a) where
  takes := by
    intro name check mem
    rcases List.mem_append.1 mem with first | second
    · exact left.takes name check first
    · exact right.takes name check second
  makes := by
    show (f.apply r).ofEntries _ = _
    simp only [apply, left.makes, right.makes]
    rfl

theorem map (right : r.Reads members a) : (g <$> r).Reads members (g a) :=
  seq ⟨fun _ _ mem => (nomatch mem), rfl⟩ right

end Reads

/-- Members pass the check one after the other, if no name is repeated. -/
theorem check_eq_ok {seen : List String} {later : List (String × Json)}
    (distinct : (later.map (·.1)).Nodup) (fresh : ∀ m ∈ later, m.1 ∉ seen)
    (takes : ∀ m ∈ later, ∀ check, r.fields.lookup m.1 = some check →
      check m.2.toDatum = .ok ()) : r.check seen (Json.toEntries later) = .ok () := by
  induction later generalizing seen with
  | nil => rfl
  | cons m later ih =>
    obtain ⟨name, item⟩ := m
    obtain ⟨takes_here, takes_later⟩ := List.forall_mem_cons.1 takes
    obtain ⟨new, fresh_later⟩ := List.forall_mem_cons.1 fresh
    obtain ⟨absent, distinct_later⟩ := List.nodup_cons.1 distinct
    rw [Json.toEntries, check]
    cases known : r.fields.lookup name with
    | none =>
      dsimp only
      rw [Datum.ignore, if_pos (Json.isWhole_toDatum item)]
      exact ih distinct_later fresh_later takes_later
    | some value =>
      have unseen : seen.contains name = false := by simpa using new
      have fresh_next : ∀ m ∈ later, m.1 ∉ name :: seen := by
        intro m mem seen_again
        rcases List.mem_cons.1 seen_again with same | before
        · have again : m.1 ∈ later.map (·.1) := List.mem_map_of_mem mem
          exact absent (same ▸ again)
        · exact fresh_later m mem before
      dsimp only
      rw [unseen, takes_here value known]
      exact ih distinct_later fresh_next takes_later

theorem lookup_of_mem (distinct : (members.map (·.1)).Nodup) (mem : (name, item) ∈ members) :
    members.lookup name = some item := by
  induction members with
  | nil => cases mem
  | cons m members ih =>
    obtain ⟨absent, distinct_later⟩ := List.nodup_cons.1 distinct
    rcases List.mem_cons.1 mem with rfl | later
    · simp
    · have other : name ≠ m.1 := by
        rintro rfl
        exact absent (List.mem_map_of_mem (f := (·.1)) later)
      rw [List.lookup_cons, beq_false_of_ne other]
      exact ih distinct_later later

/-- The object of members with distinct names is read as the record that they make. -/
theorem read_object {written : Notation} (distinct : (members.map (·.1)).Nodup)
    (reads : r.Reads members a) : r.read written (Json.object members).toDatum = .ok a := by
  have checked : r.check [] (Json.toEntries members) = .ok () := by
    refine check_eq_ok distinct (fun _ _ => List.not_mem_nil) fun m mem check known => ?_
    obtain ⟨before, after, split, -⟩ := List.lookup_eq_some_iff.1 known
    have field : (m.1, check) ∈ r.fields := by simp [split]
    exact reads.takes m.1 check field m.2 (lookup_of_mem distinct mem)
  rw [Json.toDatum, read, checked]
  simp only [Json.lookup_toEntries]
  exact reads.makes

end RecordReader

end FleetIdentity
