import FleetIdentity.Registry.Enrollment
import FleetIdentity.Registry.Required

/-!
What is handed to a store, and the failures that both kinds of store have.
-/

namespace FleetIdentity

/-- An organization to be stored. -/
structure NewOrganization where
  name : String
  country : String
  rootKey : String
  rootCert : String
  deriving DecidableEq, Repr

/-- A device to be stored; it waits for its enrollment. -/
structure NewDevice where
  organizationId : String
  brand : String
  model : String
  serialNumber : String
  credentials : Credentials
  deriving DecidableEq, Repr

/-- What a device tells when it enrolls. -/
structure EnrollmentRequest where
  brand : String
  model : String
  serialNumber : String
  storeId : String
  deviceKey : String
  deriving DecidableEq, Repr

/-- A change of status, to be made only from the status that the caller has seen. -/
structure StatusUpdate where
  expected : Status
  status : Status
  deviceData : String
  deriving DecidableEq, Repr

/-- Brand, model and serial number in one text, for messages. -/
def naturalKey (brand model serialNumber : String) : String :=
  s!"{brand}/{model}/{serialNumber}"

/-- The fields of a new device that must not be blank. -/
def NewDevice.check (d : NewDevice) : Except IdentityError Unit := do
  requireField "organization ID" d.organizationId
  requireField "brand" d.brand
  requireField "model name" d.model
  requireField "serial number" d.serialNumber

/-- The natural key of a new device. -/
def NewDevice.naturalKey (d : NewDevice) : String :=
  FleetIdentity.naturalKey d.brand d.model d.serialNumber

/-- The device as it is before its enrollment. -/
def NewDevice.toDevice (d : NewDevice) : Device :=
  { brand := d.brand, model := d.model, serialNumber := d.serialNumber, storeId := "",
    deviceKey := "" }

/-- The natural key that an enrollment names. -/
def EnrollmentRequest.naturalKey (r : EnrollmentRequest) : String :=
  FleetIdentity.naturalKey r.brand r.model r.serialNumber

/-- The failure of an enrollment that finds the device in the given status. -/
def enrollmentRefusal (status : Status) (key : String) : IdentityError :=
  match status with
  | .enrolled => .alreadyEnrolled key
  | .disabled => .disabled key
  | .waiting => .invalidState s!"device `{key}` changed status while enrolling"

namespace IdentityError

/-- There is no organization with an id or a name. -/
def organizationNotFound (idOrName : String) : IdentityError :=
  .notFound s!"organization `{idOrName}` not found"

/-- There is no device with an id or a natural key. -/
def deviceNotFound (idOrKey : String) : IdentityError :=
  .notFound s!"device `{idOrKey}` not found"

/-- The name of an organization is taken. -/
def organizationExists (name : String) : IdentityError :=
  .duplicate s!"organization `{name}` already exists"

/-- The natural key of a device is taken. -/
def deviceRegistered (key : String) : IdentityError :=
  .duplicate s!"the device `{key}` is already registered"

/-- The id of a device is taken. -/
def deviceIdTaken (id : String) : IdentityError :=
  .duplicate s!"device id `{id}` is already in use"

end IdentityError

end FleetIdentity
