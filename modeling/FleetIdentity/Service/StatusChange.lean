import FleetIdentity.Service.Basic

/-!
Changes of status by an administrator.

A device moves freely between waiting and disabled, and an enrolled one back to either; it becomes
enrolled by its enrollment alone. New data are written whether the status changes or not.
-/

namespace FleetIdentity

/-- The status before and after a change. -/
structure StatusChange where
  previous : Status
  current : Status
  deriving DecidableEq, Repr

namespace StatusChange

/-- The status is what it was. -/
def isNoop (c : StatusChange) : Bool :=
  c.previous == c.current

end StatusChange

namespace Status

/-- The status to be written to get from one to another, or nothing when it is there. -/
def planTransition (current target : Status) : Except IdentityError (Option Status) :=
  if target = .enrolled then
    .error (.forbiddenTransition s!"cannot move a device from {current.name} to enrolled")
  else if current = target then .ok none
  else .ok (some target)

end Status

/-- The update that moves a device from the status in which it was read. -/
def Enrollment.planUpdate (current : Enrollment) (target : Status) (deviceData : String) :
    Except IdentityError (Option StatusUpdate) := do
  match ← current.status.planTransition target with
  | none => return none
  | some status => return some { expected := current.status, status, deviceData }

namespace IdentityService

/-- Writes data that were given and are new; the answer is the data that the device then has. -/
def writeData (current : Enrollment) (deviceData : Option String) : StoreCall String :=
  match deviceData with
  | none => return current.deviceData
  | some data =>
    if data = current.deviceData then return data
    else do
      .write fun store => store.updateDeviceData current.id data
      return data

/-- Moves a device to a status, and writes its data if they are given. -/
def updateStatus (deviceId : String) (target : Status) (deviceData : Option String) :
    StoreCall StatusChange := do
  if target = .enrolled then
    throw (.forbiddenTransition "enrolled is only reachable by enrolling the device")
  let current ← .read fun store => store.getDeviceById deviceId
  let data ← writeData current deviceData
  match ← (.ofExcept (current.planUpdate target data) : StoreCall (Option StatusUpdate)) with
  | none => return { previous := current.status, current := current.status }
  | some update => do
    .write fun store => store.updateDeviceStatus deviceId update
    return { previous := current.status, current := update.status }

/-- Moves a device that belongs to an organization to a status. -/
def deviceUpdate (organizationId deviceId : String) (target : Status)
    (deviceData : Option String) : StoreCall StatusChange := do
  if target ≠ .enrolled then
    let _ ← deviceGet organizationId deviceId
  updateStatus deviceId target deviceData

end IdentityService

end FleetIdentity
