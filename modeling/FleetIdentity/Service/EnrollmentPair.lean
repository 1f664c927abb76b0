import FleetIdentity.Assertion.Basic
import FleetIdentity.Store.Input

/-!
What a pair of assertions asks for.

A device enrolls with a model assertion and a serial assertion, in either order. Both name the
brand and the model, and must agree on them; the serial assertion adds the serial number and the
key of the device, the model assertion perhaps a store.
-/

namespace FleetIdentity

/-- The header of the brand. -/
def brandHeader : String := "brand-id"

/-- The header of the model. -/
def modelHeader : String := "model"

/-- The header of the serial number. -/
def serialHeader : String := "serial"

/-- The header of the key of the device. -/
def deviceKeyHeader : String := "device-key"

/-- The header of the store. -/
def storeHeader : String := "store"

/-- The model assertion and the serial assertion of a pair. -/
def pairAssertions (first second : Assertion) : Except IdentityError (Assertion × Assertion) :=
  match first.kind, second.kind with
  | some .model, some .serial => .ok (first, second)
  | some .serial, some .model => .ok (second, first)
  | _, _ =>
    .error (.assertionType
      s!"expected a model and a serial assertion, got `{first.typeName}` and `{second.typeName}`")

/-- The text of a header on which both assertions agree. -/
def agreedText (model serial : Assertion) (name : String) : Except IdentityError String := do
  let text ← model.requiredText name
  if text ≠ (← serial.requiredText name) then
    throw (.mismatch s!"model and serial assertions disagree on `{name}`")
  return text

/-- The enrollment that a model assertion and a serial assertion ask for. -/
def EnrollmentRequest.ofAssertions (model serial : Assertion) :
    Except IdentityError EnrollmentRequest := do
  let brand ← agreedText model serial brandHeader
  let modelName ← agreedText model serial modelHeader
  let serialNumber ← serial.requiredText serialHeader
  let deviceKey ← serial.requiredText deviceKeyHeader
  let storeId := (← model.optionalText storeHeader).getD ""
  requireField brandHeader brand
  requireField modelHeader modelName
  requireField serialHeader serialNumber
  requireField deviceKeyHeader deviceKey
  return { brand, model := modelName, serialNumber, storeId, deviceKey }

/-- The enrollment that two assertions in any order ask for. -/
def EnrollmentRequest.ofPair (first second : Assertion) :
    Except IdentityError EnrollmentRequest := do
  let (model, serial) ← pairAssertions first second
  EnrollmentRequest.ofAssertions model serial

end FleetIdentity
