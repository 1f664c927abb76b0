import FleetIdentity.Store.Database
import FleetIdentity.Store.Memory

/-!
A store of either kind, and the calls that both answer.

A call gives its answer and the new store, or fails and leaves the store as it is.
-/

namespace FleetIdentity

/-- A store in memory or in a database. -/
inductive Store where
  | memory (tables : MemoryStore)
  | database (tables : Database)
  deriving DecidableEq, Repr

namespace Store

/-- The answer of a call with the new store. -/
def answer {α σ : Type} (toStore : σ → Store) :
    Except IdentityError (α × σ) → Except IdentityError (α × Store)
  | .ok (a, s) => .ok (a, toStore s)
  | .error e => .error e

/-- The new store after a call without answer. -/
def done {σ : Type} (toStore : σ → Store) :
    Except IdentityError σ → Except IdentityError (Unit × Store)
  | .ok s => .ok ((), toStore s)
  | .error e => .error e

/-- Stores an organization under a fresh id. -/
def createOrganization (s : Store) (id : String) (new : NewOrganization) :
    Except IdentityError (String × Store) :=
  match s with
  | .memory t => answer .memory (t.createOrganization id new)
  | .database t => answer .database (t.createOrganization id new)

/-- The organization with an id. -/
def getOrganization : Store → String → Except IdentityError Organization
  | .memory t => t.getOrganization
  | .database t => t.getOrganization

/-- The organization with a name. -/
def getOrganizationByName : Store → String → Except IdentityError Organization
  | .memory t => t.getOrganizationByName
  | .database t => t.getOrganizationByName

/-- The organizations in the order of their names. -/
def listOrganizations : Store → Except IdentityError (List Organization)
  | .memory t => t.listOrganizations
  | .database t => t.listOrganizations

/-- Stores a device under an id. -/
def createDevice (s : Store) (id : String) (new : NewDevice) :
    Except IdentityError (String × Store) :=
  match s with
  | .memory t => answer .memory (t.createDevice id new)
  | .database t => answer .database (t.createDevice id new)

/-- The device with a brand, model and serial number. -/
def getDevice : Store → (brand model serialNumber : String) → Except IdentityError Enrollment
  | .memory t => t.getDevice
  | .database t => t.getDevice

/-- The device with an id. -/
def getDeviceById : Store → String → Except IdentityError Enrollment
  | .memory t => t.getDeviceById
  | .database t => t.getDeviceById

/-- Enrolls a device that waits for it. -/
def enrollDevice (s : Store) (request : EnrollmentRequest) :
    Except IdentityError (Enrollment × Store) :=
  match s with
  | .memory t => answer .memory (t.enrollDevice request)
  | .database t => answer .database (t.enrollDevice request)

/-- Changes the status of a device that is in the expected one. -/
def updateDeviceStatus (s : Store) (id : String) (update : StatusUpdate) :
    Except IdentityError (Unit × Store) :=
  match s with
  | .memory t => done .memory (t.updateDeviceStatus id update)
  | .database t => done .database (t.updateDeviceStatus id update)

/-- Changes the data of a device. -/
def updateDeviceData (s : Store) (id deviceData : String) :
    Except IdentityError (Unit × Store) :=
  match s with
  | .memory t => done .memory (t.updateDeviceData id deviceData)
  | .database t => done .database (t.updateDeviceData id deviceData)

/-- The devices of an organization in the order of brand, model and serial number. -/
def listDevices : Store → (organizationId : String) → Except IdentityError (List Enrollment)
  | .memory t => t.listDevices
  | .database t => t.listDevices

end Store

end FleetIdentity
