import FleetIdentity.Service.Issuer
import FleetIdentity.Service.StoreCall

/-!
The identity service, and what it can be asked without changing anything.
-/

namespace FleetIdentity

/-- Registration, enrollment and status management with one issuer and one message broker. -/
structure IdentityService where
  issuer : Issuer
  mqttUrl : String
  mqttPort : String

namespace IdentityService

/-- The organizations. -/
def organizationList : StoreCall (List Organization) :=
  .read Store.listOrganizations

/-- The devices of an organization; none when there is no such organization. -/
def deviceList (organizationId : String) : StoreCall (List Enrollment) :=
  .read fun store => store.listDevices organizationId

/-- A device that belongs to an organization. -/
def deviceGet (organizationId deviceId : String) : StoreCall Enrollment := do
  let enrollment ← .read fun store => store.getDeviceById deviceId
  if enrollment.organization.id ≠ organizationId then
    throw (.notFound s!"device `{deviceId}` not found in organization `{organizationId}`")
  return enrollment

end IdentityService

end FleetIdentity
