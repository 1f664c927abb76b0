import FleetIdentity.Store.Input

/-!
The store in memory.

A device is found by its id or by its natural key, which joins brand, model and serial number with
slashes; two devices whose keys read alike are the same device here. A call that fails leaves the
store as it is.
-/

namespace FleetIdentity

/-- A stored device. -/
structure DeviceRecord where
  id : String
  organizationId : String
  device : Device
  credentials : Credentials
  status : Status
  deviceData : String
  deriving DecidableEq, Repr

/-- Organizations and devices in the order in which they were stored. -/
structure MemoryStore where
  organizations : List Organization
  devices : List DeviceRecord
  deriving DecidableEq, Repr

namespace MemoryStore

/-- The store without organizations and devices. -/
def empty : MemoryStore :=
  { organizations := [], devices := [] }

/-- The organization with an id. -/
def findOrganization (s : MemoryStore) (id : String) : Option Organization :=
  s.organizations.find? (·.id == id)

/-- The organization with a name. -/
def findOrganizationNamed (s : MemoryStore) (name : String) : Option Organization :=
  s.organizations.find? (·.name == name)

/-- The device with an id. -/
def findDevice (s : MemoryStore) (id : String) : Option DeviceRecord :=
  s.devices.find? (·.id == id)

/-- The device with a natural key. -/
def findDeviceKeyed (s : MemoryStore) (key : String) : Option DeviceRecord :=
  s.devices.find? (·.device.naturalKey == key)

/-- The device with its organization. -/
def enrollment (s : MemoryStore) (r : DeviceRecord) : Except IdentityError Enrollment :=
  match s.findOrganization r.organizationId with
  | none =>
    .error (.storage s!"device {r.id} references missing organization {r.organizationId}")
  | some organization =>
    .ok {
      id := r.id
      device := r.device
      credentials := r.credentials
      organization
      status := r.status
      deviceData := r.deviceData }

/-- The device with an id, or the failure that there is none. -/
def deviceById (s : MemoryStore) (id : String) : Except IdentityError DeviceRecord :=
  match s.findDevice id with
  | some r => .ok r
  | none => .error (.deviceNotFound id)

/-- The device with a natural key, or the failure that there is none. -/
def deviceByKey (s : MemoryStore) (key : String) : Except IdentityError DeviceRecord :=
  match s.findDeviceKeyed key with
  | some r => .ok r
  | none => .error (.deviceNotFound key)

/-- Puts a device in the place of the one with its id. -/
def replace (s : MemoryStore) (r : DeviceRecord) : MemoryStore :=
  { s with devices := s.devices.map fun other => if other.id = r.id then r else other }

/-- Stores an organization under an id that no other has. -/
def createOrganization (s : MemoryStore) (id : String) (new : NewOrganization) :
    Except IdentityError (String × MemoryStore) := do
  requireField "name" new.name
  if (s.findOrganizationNamed new.name).isSome then throw (.organizationExists new.name)
  let organization : Organization :=
    { id, name := new.name, country := new.country, rootKey := new.rootKey,
      rootCert := new.rootCert }
  return (id, { s with organizations := s.organizations ++ [organization] })

/-- The organization with an id. -/
def getOrganization (s : MemoryStore) (id : String) : Except IdentityError Organization :=
  match s.findOrganization id with
  | some o => .ok o
  | none => .error (.organizationNotFound id)

/-- The organization with a name. -/
def getOrganizationByName (s : MemoryStore) (name : String) : Except IdentityError Organization :=
  match s.findOrganizationNamed name with
  | some o => .ok o
  | none => .error (.organizationNotFound name)

/-- The organizations in the order of their names. -/
def listOrganizations (s : MemoryStore) : Except IdentityError (List Organization) :=
  .ok (s.organizations.mergeSort fun a b => a.name ≤ b.name)

/-- Stores a device under an id. -/
def createDevice (s : MemoryStore) (id : String) (new : NewDevice) :
    Except IdentityError (String × MemoryStore) := do
  new.check
  if (s.findOrganization new.organizationId).isNone then
    throw (.organizationNotFound new.organizationId)
  if (s.findDeviceKeyed new.naturalKey).isSome then throw (.deviceRegistered new.naturalKey)
  if (s.findDevice id).isSome then throw (.deviceIdTaken id)
  let record : DeviceRecord :=
    { id, organizationId := new.organizationId, device := new.toDevice,
      credentials := new.credentials, status := .waiting, deviceData := "" }
  return (id, { s with devices := s.devices ++ [record] })

/-- The device with a brand, model and serial number. -/
def getDevice (s : MemoryStore) (brand model serialNumber : String) :
    Except IdentityError Enrollment := do
  s.enrollment (← s.deviceByKey (naturalKey brand model serialNumber))

/-- The device with an id. -/
def getDeviceById (s : MemoryStore) (id : String) : Except IdentityError Enrollment := do
  s.enrollment (← s.deviceById id)

/-- Enrolls a device that waits for it. -/
def enrollDevice (s : MemoryStore) (request : EnrollmentRequest) :
    Except IdentityError (Enrollment × MemoryStore) := do
  let r ← s.deviceByKey request.naturalKey
  if r.status ≠ .waiting then throw (enrollmentRefusal r.status r.device.naturalKey)
  let enrolled : DeviceRecord :=
    { r with
      device := { r.device with storeId := request.storeId, deviceKey := request.deviceKey }
      status := .enrolled }
  let s := s.replace enrolled
  return (← s.enrollment enrolled, s)

/-- Changes the status of a device that is in the expected one. -/
def updateDeviceStatus (s : MemoryStore) (id : String) (update : StatusUpdate) :
    Except IdentityError MemoryStore := do
  let r ← s.deviceById id
  if r.status ≠ update.expected then
    throw (.invalidState s!"device `{id}` is {r.status.name}, expected {update.expected.name}")
  return s.replace { r with status := update.status, deviceData := update.deviceData }

/-- Changes the data of a device. -/
def updateDeviceData (s : MemoryStore) (id deviceData : String) :
    Except IdentityError MemoryStore := do
  let r ← s.deviceById id
  return s.replace { r with deviceData }

/-- The devices of an organization in the order of their natural keys. -/
def listDevices (s : MemoryStore) (organizationId : String) :
    Except IdentityError (List Enrollment) := do
  let enrollments ← (s.devices.filter (·.organizationId == organizationId)).mapM s.enrollment
  return enrollments.mergeSort fun a b => a.device.naturalKey ≤ b.device.naturalKey

end MemoryStore

end FleetIdentity
