import FleetIdentity.Dictionary
import FleetIdentity.Store.Memory

/-!
The store in memory table by table: organizations and devices by their ids, and for each an index
that leads from a name or a natural key to the id.

A look-up by name or by key goes through the index and then through the table, and a write that adds
an entry writes both. The order in which a table is listed is that of the ids and carries no
meaning.
-/

namespace FleetIdentity

/-- The organization as it is stored. -/
def NewOrganization.stored (new : NewOrganization) (id : String) : Organization :=
  { id, name := new.name, country := new.country, rootKey := new.rootKey, rootCert := new.rootCert }

/-- The record of a new device, which waits for its enrollment. -/
def NewDevice.record (new : NewDevice) (id : String) : DeviceRecord :=
  { id, organizationId := new.organizationId, device := new.toDevice,
    credentials := new.credentials, status := .waiting, deviceData := "" }

/-- The record of a device after its enrollment. -/
def DeviceRecord.enrolled (r : DeviceRecord) (request : EnrollmentRequest) : DeviceRecord :=
  { r with
    device := { r.device with storeId := request.storeId, deviceKey := request.deviceKey }
    status := .enrolled }

/-- Two tables and their indexes. -/
structure MemoryTables where
  organizations : Dictionary Organization
  /-- From the name of an organization to its id. -/
  organizationNames : Dictionary String
  devices : Dictionary DeviceRecord
  /-- From the natural key of a device to its id. -/
  deviceKeys : Dictionary String

namespace MemoryTables

/-- The tables without entries. -/
def empty : MemoryTables where
  organizations := .empty
  organizationNames := .empty
  devices := .empty
  deviceKeys := .empty

/-- The device with its organization. -/
def enrollment (t : MemoryTables) (r : DeviceRecord) : Except IdentityError Enrollment :=
  match t.organizations.get? r.organizationId with
  | none =>
    .error (.storage s!"device {r.id} references missing organization {r.organizationId}")
  | some organization =>
    .ok {
      id := r.id
      device := r.device
      credentials := r.credentials
      organization
      status := r.status
      deviceData := r.deviceData }

/-- The id that the index has for a natural key. -/
def deviceId (t : MemoryTables) (key : String) : Except IdentityError String :=
  match t.deviceKeys.get? key with
  | some id => .ok id
  | none => .error (.deviceNotFound key)

/-- The device with an id. -/
def deviceById (t : MemoryTables) (id : String) : Except IdentityError DeviceRecord :=
  match t.devices.get? id with
  | some r => .ok r
  | none => .error (.deviceNotFound id)

/-- Puts a device under an id, in the stead of the one that is there. -/
def replace (t : MemoryTables) (id : String) (r : DeviceRecord) : MemoryTables :=
  { t with devices := t.devices.insert id r }

/-- Stores an organization under an id. -/
def createOrganization (t : MemoryTables) (id : String) (new : NewOrganization) :
    Except IdentityError (String × MemoryTables) := do
  requireField "name" new.name
  if t.organizationNames.contains new.name then throw (.organizationExists new.name)
  return (id, { t with
    organizationNames := t.organizationNames.insert new.name id
    organizations := t.organizations.insert id (new.stored id) })

/-- The organization with an id. -/
def getOrganization (t : MemoryTables) (id : String) : Except IdentityError Organization :=
  match t.organizations.get? id with
  | some o => .ok o
  | none => .error (.organizationNotFound id)

/-- The organization with a name. -/
def getOrganizationByName (t : MemoryTables) (name : String) : Except IdentityError Organization :=
  match (t.organizationNames.get? name).bind t.organizations.get? with
  | some o => .ok o
  | none => .error (.organizationNotFound name)

/-- The organizations in the order of their names. -/
def listOrganizations (t : MemoryTables) : Except IdentityError (List Organization) :=
  .ok (t.organizations.values.mergeSort fun a b => a.name ≤ b.name)

/-- Stores a device under an id. -/
def createDevice (t : MemoryTables) (id : String) (new : NewDevice) :
    Except IdentityError (String × MemoryTables) := do
  new.check
  if !t.organizations.contains new.organizationId then
    throw (.organizationNotFound new.organizationId)
  if t.deviceKeys.contains new.naturalKey then throw (.deviceRegistered new.naturalKey)
  if t.devices.contains id then throw (.deviceIdTaken id)
  return (id, { t with
    deviceKeys := t.deviceKeys.insert new.naturalKey id
    devices := t.devices.insert id (new.record id) })

/-- The device with a brand, model and serial number. -/
def getDevice (t : MemoryTables) (brand model serialNumber : String) :
    Except IdentityError Enrollment := do
  let id ← t.deviceId (naturalKey brand model serialNumber)
  t.enrollment (← t.deviceById id)

/-- The device with an id. -/
def getDeviceById (t : MemoryTables) (id : String) : Except IdentityError Enrollment := do
  t.enrollment (← t.deviceById id)

/-- Enrolls a device that waits for it. -/
def enrollDevice (t : MemoryTables) (request : EnrollmentRequest) :
    Except IdentityError (Enrollment × MemoryTables) := do
  let id ← t.deviceId request.naturalKey
  let r ← t.deviceById id
  if r.status ≠ .waiting then throw (enrollmentRefusal r.status r.device.naturalKey)
  let t := t.replace id (r.enrolled request)
  return (← t.enrollment (← t.deviceById id), t)

/-- Changes the status of a device that is in the expected one. -/
def updateDeviceStatus (t : MemoryTables) (id : String) (update : StatusUpdate) :
    Except IdentityError MemoryTables := do
  let r ← t.deviceById id
  if r.status ≠ update.expected then
    throw (.invalidState s!"device `{id}` is {r.status.name}, expected {update.expected.name}")
  return t.replace id { r with status := update.status, deviceData := update.deviceData }

/-- Changes the data of a device. -/
def updateDeviceData (t : MemoryTables) (id deviceData : String) :
    Except IdentityError MemoryTables := do
  let r ← t.deviceById id
  return t.replace id { r with deviceData }

/-- The devices of an organization in the order of their natural keys. -/
def listDevices (t : MemoryTables) (organizationId : String) :
    Except IdentityError (List Enrollment) := do
  let owned := t.devices.values.filter (·.organizationId == organizationId)
  let enrollments ← owned.mapM t.enrollment
  return enrollments.mergeSort fun a b => a.device.naturalKey ≤ b.device.naturalKey

end MemoryTables

end FleetIdentity
