import FleetIdentity.Store.Input

/-!
The store in a relational database of two tables.

Unlike the store in memory, a table may have been dropped, and then what needs it fails; a row may
hold a number that stands for no status, and then the row cannot be read but still takes its id and
its place; and a device is found by brand, model and serial number each on its own.

A row also keeps when it was stored and when it was last changed, which nothing reads. These moments
are kept as the numbers of the writes: whatever a clock shows at a write, a row whose numbers stay
has the moments that it had. Of an organization, which is stored once and never changed, the moment
is left out.
-/

namespace FleetIdentity

/-- A row of the table of devices, as it is read. -/
structure DeviceRow where
  id : String
  organizationId : String
  device : Device
  credentials : Credentials
  statusCode : Int
  deviceData : String
  deriving DecidableEq, Repr

/-- A row of the table of devices with all its columns. -/
structure StoredRow where
  row : DeviceRow
  /-- The write that stored it. -/
  created : Nat
  /-- The last write that changed it. -/
  modified : Nat
  deriving DecidableEq, Repr

/-- The rows of the two tables, of those that exist. -/
structure Database where
  organizations : Option (List Organization)
  stored : Option (List StoredRow)
  /-- How many writes to the table of devices there were. -/
  writes : Nat
  deriving DecidableEq, Repr

namespace DeviceRow

/-- The row is that of a brand, model and serial number. -/
def isOf (r : DeviceRow) (brand model serialNumber : String) : Bool :=
  r.device.brand == brand && r.device.model == model && r.device.serialNumber == serialNumber

/-- The row with its organization, if its status can be read. -/
def enrollment (r : DeviceRow) (organization : Organization) : Except IdentityError Enrollment :=
  match Status.ofCode? r.statusCode with
  | none => .error (.invalidState s!"device `{r.id}` has unknown status code {r.statusCode}")
  | some status =>
    .ok {
      id := r.id
      device := r.device
      credentials := r.credentials
      organization
      status
      deviceData := r.deviceData }

/-- The order of brand, then model, then serial number. -/
def precedes (a b : DeviceRow) : Bool :=
  if a.device.brand ≠ b.device.brand then a.device.brand < b.device.brand
  else if a.device.model ≠ b.device.model then a.device.model < b.device.model
  else a.device.serialNumber ≤ b.device.serialNumber

end DeviceRow

namespace Database

/-- The database with empty tables. -/
def empty : Database :=
  { organizations := some [], stored := some [], writes := 0 }

/-- The database without tables. -/
def bare : Database :=
  { organizations := none, stored := none, writes := 0 }

/-- The rows of the table of devices as they are read, if there is the table. -/
def devices (s : Database) : Option (List DeviceRow) :=
  s.stored.map (List.map (·.row))

/-- The database with the tables that it lacks. -/
def withTables (s : Database) : Database :=
  { s with
    organizations := some (s.organizations.getD [])
    stored := some (s.stored.getD []) }

/-- The failure of a statement about a table that does not exist. -/
def noTable (name : String) : IdentityError :=
  .storage s!"no such table: {name}"

/-- The rows of the table of organizations. -/
def organizationRows (s : Database) : Except IdentityError (List Organization) :=
  match s.organizations with
  | some rows => .ok rows
  | none => .error (noTable "organization")

/-- The rows of the table of devices. -/
def deviceRows (s : Database) : Except IdentityError (List DeviceRow) :=
  match s.devices with
  | some rows => .ok rows
  | none => .error (noTable "device")

/-- The rows of devices, each with its organization. -/
def joined (s : Database) : Except IdentityError (List (DeviceRow × Organization)) := do
  let rows ← s.deviceRows
  let organizations ← s.organizationRows
  return rows.filterMap fun r =>
    (organizations.find? (·.id == r.organizationId)).map fun o => (r, o)

/-- Adds a row. -/
def insert (s : Database) (r : DeviceRow) : Database :=
  { s with
    stored := s.stored.map (· ++ [{ row := r, created := s.writes, modified := s.writes }])
    writes := s.writes + 1 }

/-- Changes the rows that are selected; where none is, nothing is written. -/
def change (s : Database) (selects : DeviceRow → Bool) (f : DeviceRow → DeviceRow) : Database :=
  if (s.devices.getD []).any selects then
    { s with
      stored := s.stored.map (List.map fun r =>
        if selects r.row then { r with row := f r.row, modified := s.writes } else r)
      writes := s.writes + 1 }
  else s

/-- Puts a row in the place of the one with its id. -/
def replace (s : Database) (r : DeviceRow) : Database :=
  s.change (·.id == r.id) fun _ => r

/-- Stores an organization under an id. -/
def createOrganization (s : Database) (id : String) (new : NewOrganization) :
    Except IdentityError (String × Database) := do
  requireField "name" new.name
  let rows ← s.organizationRows
  if rows.any (fun o => o.name == new.name || o.id == id) then
    throw (.organizationExists new.name)
  let organization : Organization :=
    { id, name := new.name, country := new.country, rootKey := new.rootKey,
      rootCert := new.rootCert }
  return (id, { s with organizations := some (rows ++ [organization]) })

/-- The organization with an id. -/
def getOrganization (s : Database) (id : String) : Except IdentityError Organization := do
  match (← s.organizationRows).find? (·.id == id) with
  | some o => return o
  | none => throw (.organizationNotFound id)

/-- The organization with a name. -/
def getOrganizationByName (s : Database) (name : String) : Except IdentityError Organization := do
  match (← s.organizationRows).find? (·.name == name) with
  | some o => return o
  | none => throw (.organizationNotFound name)

/-- The organizations in the order of their names. -/
def listOrganizations (s : Database) : Except IdentityError (List Organization) := do
  return (← s.organizationRows).mergeSort fun a b => a.name ≤ b.name

/-- Stores a device under an id. -/
def createDevice (s : Database) (id : String) (new : NewDevice) :
    Except IdentityError (String × Database) := do
  new.check
  let organizations ← s.organizationRows
  if !organizations.any (·.id == new.organizationId) then
    throw (.organizationNotFound new.organizationId)
  let rows ← s.deviceRows
  if rows.any (·.isOf new.brand new.model new.serialNumber) then
    throw (.deviceRegistered new.naturalKey)
  if rows.any (·.id == id) then throw (.deviceIdTaken id)
  let row : DeviceRow :=
    { id, organizationId := new.organizationId, device := new.toDevice,
      credentials := new.credentials, statusCode := Status.waiting.code, deviceData := "" }
  return (id, s.insert row)

/-- The device with a brand, model and serial number. -/
def getDevice (s : Database) (brand model serialNumber : String) :
    Except IdentityError Enrollment := do
  match (← s.joined).find? (·.1.isOf brand model serialNumber) with
  | some (r, o) => r.enrollment o
  | none => throw (.deviceNotFound (naturalKey brand model serialNumber))

/-- The device with an id. -/
def getDeviceById (s : Database) (id : String) : Except IdentityError Enrollment := do
  match (← s.joined).find? (·.1.id == id) with
  | some (r, o) => r.enrollment o
  | none => throw (.deviceNotFound id)

/-- Enrolls a device that waits for it. -/
def enrollDevice (s : Database) (request : EnrollmentRequest) :
    Except IdentityError (Enrollment × Database) := do
  match (← s.joined).find? (·.1.isOf request.brand request.model request.serialNumber) with
  | none => throw (.deviceNotFound request.naturalKey)
  | some (r, o) =>
    let current ← r.enrollment o
    if current.status ≠ .waiting then
      throw (enrollmentRefusal current.status request.naturalKey)
    let device := { r.device with storeId := request.storeId, deviceKey := request.deviceKey }
    return ({ current with device, status := .enrolled },
      s.replace { r with device, statusCode := Status.enrolled.code })

/-- Changes the status of a device that is in the expected one. -/
def updateDeviceStatus (s : Database) (id : String) (update : StatusUpdate) :
    Except IdentityError Database := do
  match (← s.deviceRows).find? (·.id == id) with
  | none => throw (.deviceNotFound id)
  | some r =>
    if r.statusCode ≠ update.expected.code then
      throw (.invalidState
        s!"device `{id}` has status code {r.statusCode}, expected {update.expected.name}")
    return s.replace { r with statusCode := update.status.code, deviceData := update.deviceData }

/-- Changes the data of a device. -/
def updateDeviceData (s : Database) (id deviceData : String) : Except IdentityError Database := do
  match (← s.deviceRows).find? (·.id == id) with
  | none => throw (.deviceNotFound id)
  | some r => return s.replace { r with deviceData }

/-- The devices of an organization in the order of brand, model and serial number. -/
def listDevices (s : Database) (organizationId : String) :
    Except IdentityError (List Enrollment) := do
  let rows := (← s.joined).filter (·.1.organizationId == organizationId)
  (rows.mergeSort fun a b => a.1.precedes b.1).mapM fun (r, o) => r.enrollment o

/-- Writes a status code past the rules of the store; the number of rows that change. -/
def forceStatusCode (s : Database) (id : String) (statusCode : Int) :
    Except IdentityError (Nat × Database) := do
  let rows ← s.deviceRows
  let forced (r : StoredRow) : StoredRow :=
    if r.row.id = id then { r with row := { r.row with statusCode } } else r
  return (rows.countP (·.id == id), { s with stored := s.stored.map (List.map forced) })

/-- Drops the table of devices. -/
def dropDevices (s : Database) : Except IdentityError Database := do
  let _ ← s.deviceRows
  return { s with stored := none }

/-- Drops the table of organizations, which no row of the other table may refer to. -/
def dropOrganizations (s : Database) : Except IdentityError Database := do
  let _ ← s.organizationRows
  if (s.devices.getD []).isEmpty then return { s with organizations := none }
  else throw (.storage "FOREIGN KEY constraint failed")

end Database

end FleetIdentity
