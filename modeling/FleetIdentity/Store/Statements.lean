import FleetIdentity.Store.Database

/-!
The writes of the database statement by statement.

A change of a device is one statement that names the device and the status it must be in, and tells
how many rows it changed; only when it changed none does a second statement look for the reason. An
enrollment reads the device first and is a transaction: a failure takes back what it wrote.
-/

namespace FleetIdentity

/-- Statements on a database; a failure ends them and keeps what they changed. -/
abbrev Statements (α : Type) := ExceptT IdentityError (StateM Database) α

namespace Statements

variable {α : Type}

/-- A statement that only reads. -/
def query (answer : Database → Except IdentityError α) : Statements α :=
  fun t => (answer t, t)

/-- Changes the rows of devices that a condition selects; the number of those rows. -/
def update (selects : DeviceRow → Bool) (change : DeviceRow → DeviceRow) :
    Statements Nat := fun t =>
  match t.deviceRows with
  | .error e => (.error e, t)
  | .ok rows => (.ok (rows.countP selects), t.change selects change)

/-- Statements that have all their effect, or none when they fail. -/
def transaction (statements : Statements α) : Statements α := fun t =>
  match statements t with
  | (.ok a, t') => (.ok a, t')
  | (.error e, _) => (.error e, t)

/-- The number of the status of a device, if it is there. -/
def statusCodeOf (id : String) (t : Database) : Except IdentityError (Option Int) := do
  return ((← t.deviceRows).find? (·.id == id)).map (·.statusCode)

/-- Enrolls a device that waits for it. -/
def enrollDevice (request : EnrollmentRequest) : Statements Enrollment := transaction do
  let current ← query (·.getDevice request.brand request.model request.serialNumber)
  if current.status ≠ .waiting then
    throw (enrollmentRefusal current.status request.naturalKey)
  let changed ← update (fun r => r.id == current.id && r.statusCode == Status.waiting.code)
    fun r => { r with
      device := { r.device with storeId := request.storeId, deviceKey := request.deviceKey }
      statusCode := Status.enrolled.code }
  if changed = 0 then throw (enrollmentRefusal .waiting request.naturalKey)
  return { current with
    device := { current.device with storeId := request.storeId, deviceKey := request.deviceKey }
    status := .enrolled }

/-- Changes the status and the data of a device that is in the expected status. -/
def updateDeviceStatus (id : String) (change : StatusUpdate) : Statements Unit := do
  let changed ← update (fun r => r.id == id && r.statusCode == change.expected.code)
    fun r => { r with statusCode := change.status.code, deviceData := change.deviceData }
  if changed = 0 then
    match ← query (statusCodeOf id) with
    | none => throw (.deviceNotFound id)
    | some code =>
      throw (.invalidState
        s!"device `{id}` has status code {code}, expected {change.expected.name}")

/-- Changes the data of a device. -/
def updateDeviceData (id deviceData : String) : Statements Unit := do
  let changed ← update (·.id == id) fun r => { r with deviceData }
  if changed = 0 then throw (.deviceNotFound id)

end Statements

end FleetIdentity
