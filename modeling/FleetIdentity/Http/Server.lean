import FleetIdentity.Assertion.Decoder
import FleetIdentity.Http.Body
import FleetIdentity.Http.Route
import FleetIdentity.Service.Enrollment
import FleetIdentity.Service.Registration
import FleetIdentity.Service.StatusChange

/-!
The service behind its routes.

A request for no route is answered 404, one with a method that its route does not have 405, and one
with a parameter that is no text 400, all three before the body is looked at.
-/

namespace FleetIdentity

/-- The identity service with the keys that it trusts. -/
structure Server where
  service : IdentityService
  decoder : Decoder

namespace Server

/-- The response to the outcome of a service call. -/
def respond {α : Type} (answer : α → List (String × Json)) :
    Except IdentityError α → HttpResponse
  | .ok a => .success (answer a)
  | .error e => .failure e

/-- Makes a service call and answers with its outcome. -/
def reply {α : Type} (call : StoreCall α) (answer : α → List (String × Json)) :
    StateM Store HttpResponse := do
  return respond answer (← call.run)

/-- Says that the service is running. -/
def health : HttpResponse :=
  { status := 200
    body := some (.object [
      ("status", .text "healthy"),
      ("service", .text "iotid-node"),
      ("version", .text "0.1.0")]) }

/-- Registers the organization in the body. -/
def registerOrganization (s : Server) (fresh : Fresh) (r : HttpRequest) :
    StateM Store HttpResponse :=
  reply (do
    let request ← .ofExcept (r.jsonBody OrganizationRequest.ofDatum)
    s.service.registerOrganization fresh request) fun id => [("id", .text id)]

/-- Registers the device in the body. -/
def registerDevice (s : Server) (fresh : Fresh) (r : HttpRequest) : StateM Store HttpResponse :=
  reply (do
    let request ← .ofExcept (r.jsonBody DeviceRequest.ofDatum)
    s.service.registerDevice fresh request) fun id => [("id", .text id)]

/-- Enrolls the device that the assertions in the body name. -/
def enroll (s : Server) (r : HttpRequest) : StateM Store HttpResponse :=
  if r.isOversized then return .bare 413
  else reply (do
    let (first, second) ← .ofExcept (s.decoder.decodePair r.body)
    IdentityService.enrollDevice first second) fun e => [("enrollment", e.toJson)]

/-- Lists the organizations. -/
def listOrganizations : StateM Store HttpResponse :=
  reply IdentityService.organizationList fun organizations =>
    [("organizations", .list (organizations.map Organization.toJson))]

/-- Lists the devices of an organization. -/
def listDevices (organization : String) : StateM Store HttpResponse :=
  reply (IdentityService.deviceList organization) fun devices =>
    [("devices", .list (devices.map Enrollment.toJson))]

/-- Shows a device of an organization. -/
def showDevice (organization device : String) : StateM Store HttpResponse :=
  reply (IdentityService.deviceGet organization device) fun e => [("enrollment", e.toJson)]

/-- The update that a body asks for: a status and perhaps data. -/
def requestedUpdate (r : HttpRequest) : Except IdentityError (Status × Option String) := do
  let request ← r.jsonBody DeviceUpdateRequest.ofDatum
  match Status.ofCode? request.status with
  | some target => return (target, request.deviceData)
  | none => throw (.validation s!"unknown status code {request.status}")

/-- Changes a device of an organization as the body says. -/
def updateDevice (organization device : String) (r : HttpRequest) : StateM Store HttpResponse :=
  reply (do
    let (target, deviceData) ← .ofExcept (requestedUpdate r)
    IdentityService.deviceUpdate organization device target deviceData) fun change =>
      [("previous", change.previous.toJson), ("status", change.current.toJson)]

/-- Answers a request that its route allows. -/
def answerRoute (s : Server) (fresh : Fresh) (r : HttpRequest) :
    Route → StateM Store HttpResponse
  | .health => return health
  | .organization => s.registerOrganization fresh r
  | .organizations => listOrganizations
  | .device => s.registerDevice fresh r
  | .enroll => s.enroll r
  | .devices owner =>
    match HttpPath.decode? owner with
    | some owner => listDevices owner
    | none => return .bare 400
  | .deviceOf owner id =>
    match HttpPath.decode? owner, HttpPath.decode? id with
    | some owner, some id =>
      if r.method = .put then updateDevice owner id r else showDevice owner id
    | _, _ => return .bare 400

/-- Answers a request; an answer to HEAD has no body. -/
def answer (s : Server) (fresh : Fresh) (r : HttpRequest) : StateM Store HttpResponse :=
  match Route.ofTarget? r.target with
  | none => return .bare 404
  | some route =>
    if !route.allows r.method then return .bare 405
    else do
      let response ← s.answerRoute fresh r route
      if r.method = .head then return .bare response.status else return response

end Server

end FleetIdentity
