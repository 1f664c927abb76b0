import FleetIdentity.Datum.Record
import FleetIdentity.Error
import FleetIdentity.Json

/-!
The status of an enrollment and its number.

The number is the form in which a status is stored and sent; a number that stands for no status is
refused where it is read.
-/

namespace FleetIdentity

/-- Where a device stands in its enrollment. -/
inductive Status where
  /-- Registered, and not enrolled yet. -/
  | waiting
  /-- Enrolled. -/
  | enrolled
  /-- Excluded by an administrator. -/
  | disabled
  deriving DecidableEq, Repr

namespace Status

/-- The number of a status. -/
def code : Status → Int
  | .waiting => 1
  | .enrolled => 2
  | .disabled => 3

/-- The status of a number. -/
def ofCode? : Int → Option Status
  | 1 => some .waiting
  | 2 => some .enrolled
  | 3 => some .disabled
  | _ => none

/-- The status of a number, or the failure that there is none. -/
def ofCode (n : Int) : Except IdentityError Status :=
  match ofCode? n with
  | some status => .ok status
  | none => .error (.invalidState s!"unknown status code {n}")

/-- The name of a status in messages. -/
def name : Status → String
  | .waiting => "waiting"
  | .enrolled => "enrolled"
  | .disabled => "disabled"

/-- The name of a status in logs. -/
def describe : Status → String
  | .waiting => "Waiting"
  | .enrolled => "Enrolled"
  | .disabled => "Disabled"

/-- The JSON form of a status. -/
def toJson (s : Status) : Json :=
  .integer s.code

/-- The least and the greatest integer of 64 bits. -/
def codeBounds : Int × Int := (-2 ^ 63, 2 ^ 63 - 1)

/-- A number of a status in data, whether it stands for one or not. -/
def codeOfDatum (d : Datum) : Except DatumFault Int :=
  d.toInteger codeBounds.1 codeBounds.2

/-- The status in data. -/
def ofDatum (d : Datum) : Except DatumFault Status := do
  match ofCode? (← codeOfDatum d) with
  | some status => return status
  | none => throw .mismatch

theorem ofCode?_eq_some_iff {n : Int} {s : Status} : ofCode? n = some s ↔ n = s.code := by
  unfold ofCode?
  cases s <;> split <;> simp_all [code]

theorem code_inj {s t : Status} : s.code = t.code ↔ s = t := by
  cases s <;> cases t <;> decide

end Status

end FleetIdentity
