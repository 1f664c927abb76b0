import FleetIdentity.Store.Tables

/-!
The writes of the store in memory step by step.

A write looks at the tables, changes one after the other and builds its answer last. There is no
way back: what was changed before a failure stays changed.
-/

namespace FleetIdentity

/-- Steps on the tables; a failure ends them and keeps what they changed. -/
abbrev TableSteps (α : Type) := ExceptT IdentityError (StateM MemoryTables) α

namespace TableSteps

variable {α : Type}

/-- A look at the tables. -/
def look (answer : MemoryTables → Except IdentityError α) : TableSteps α :=
  fun t => (answer t, t)

/-- A change of the tables. -/
def change (f : MemoryTables → MemoryTables) : TableSteps Unit :=
  fun t => (.ok (), f t)

/-- Ends the steps with a failure if a condition holds of the tables. -/
def failIf (condition : MemoryTables → Bool) (failure : IdentityError) : TableSteps Unit :=
  look fun t => if condition t then .error failure else .ok ()

/-- Stores an organization under an id. -/
def createOrganization (id : String) (new : NewOrganization) : TableSteps String := do
  look fun _ => requireField "name" new.name
  failIf (·.organizationNames.contains new.name) (.organizationExists new.name)
  change fun t => { t with organizationNames := t.organizationNames.insert new.name id }
  change fun t => { t with organizations := t.organizations.insert id (new.stored id) }
  return id

/-- Stores a device under an id. -/
def createDevice (id : String) (new : NewDevice) : TableSteps String := do
  look fun _ => new.check
  failIf (!·.organizations.contains new.organizationId) (.organizationNotFound new.organizationId)
  failIf (·.deviceKeys.contains new.naturalKey) (.deviceRegistered new.naturalKey)
  failIf (·.devices.contains id) (.deviceIdTaken id)
  change fun t => { t with deviceKeys := t.deviceKeys.insert new.naturalKey id }
  change fun t => { t with devices := t.devices.insert id (new.record id) }
  return id

/-- Enrolls a device that waits for it; the answer is looked up after the device has changed. -/
def enrollDevice (request : EnrollmentRequest) : TableSteps Enrollment := do
  let id ← look (·.deviceId request.naturalKey)
  let r ← look (·.deviceById id)
  failIf (fun _ => r.status ≠ .waiting) (enrollmentRefusal r.status r.device.naturalKey)
  change (·.replace id (r.enrolled request))
  let changed ← look (·.deviceById id)
  look (·.enrollment changed)

/-- Changes the status and the data of a device that is in the expected status. -/
def updateDeviceStatus (id : String) (update : StatusUpdate) : TableSteps Unit := do
  let r ← look (·.deviceById id)
  failIf (fun _ => r.status ≠ update.expected)
    (.invalidState s!"device `{id}` is {r.status.name}, expected {update.expected.name}")
  change (·.replace id { r with status := update.status, deviceData := update.deviceData })

/-- Changes the data of a device. -/
def updateDeviceData (id deviceData : String) : TableSteps Unit := do
  let r ← look (·.deviceById id)
  change (·.replace id { r with deviceData })

end TableSteps

end FleetIdentity
