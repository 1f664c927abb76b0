import FleetIdentity.Registry.Request
import FleetIdentity.Service.Basic

/-!
Registering organizations and devices.

Both are refused when the name or the identity is taken, before anything is issued. A device gets
its certificate under the authority of its organization and waits for its enrollment.
-/

namespace FleetIdentity

namespace IdentityService

/-- Refuses a name that an organization has. -/
def requireNewName (name : String) : StoreCall Unit := fun store =>
  match store.getOrganizationByName name with
  | .ok _ => (.error (.organizationExists name), store)
  | .error (.notFound _) => (.ok (), store)
  | .error e => (.error e, store)

/-- Refuses a brand, model and serial number that a device has, even one whose row is unreadable. -/
def requireNewDevice (brand model serialNumber : String) : StoreCall Unit := fun store =>
  match store.getDevice brand model serialNumber with
  | .ok _ | .error (.invalidState _) =>
    (.error (.deviceRegistered (naturalKey brand model serialNumber)), store)
  | .error (.notFound _) => (.ok (), store)
  | .error e => (.error e, store)

/-- Registers an organization with a certificate of its own; the answer is its id. -/
def registerOrganization (service : IdentityService) (fresh : Fresh)
    (request : OrganizationRequest) : StoreCall String := do
  .ofExcept (requireField "name" request.name)
  requireNewName request.name
  let issued ← .ofExcept (liftPki
    (service.issuer.issueOrganization fresh.draw request.name request.country))
  .write fun store => store.createOrganization fresh.id {
    name := request.name
    country := request.country
    rootKey := issued.privateKeyPem
    rootCert := issued.certificatePem }

/-- The fields of a device's registration that must not be blank. -/
def checkDeviceRequest (request : DeviceRequest) : Except IdentityError Unit := do
  requireField "organization ID" request.organizationId
  requireField "brand" request.brand
  requireField "model name" request.model
  requireField "serial number" request.serialNumber

/-- Registers a device, which then waits for its enrollment; the answer is its id. -/
def registerDevice (service : IdentityService) (fresh : Fresh) (request : DeviceRequest) :
    StoreCall String := do
  .ofExcept (checkDeviceRequest request)
  let organization ← .read fun store => store.getOrganization request.organizationId
  requireNewDevice request.brand request.model request.serialNumber
  let issued ← .ofExcept (liftPki
    (service.issuer.issueDevice fresh.draw organization fresh.id))
  .write fun store => store.createDevice fresh.id {
    organizationId := organization.id
    brand := request.brand
    model := request.model
    serialNumber := request.serialNumber
    credentials := {
      privateKey := issued.privateKeyPem
      certificate := issued.certificatePem
      mqttUrl := service.mqttUrl
      mqttPort := service.mqttPort } }

end IdentityService

end FleetIdentity
