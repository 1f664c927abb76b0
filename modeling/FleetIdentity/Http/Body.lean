import FleetIdentity.Datum.Json
import FleetIdentity.Http.Message
import FleetIdentity.Http.MediaType

/-!
The bodies of requests.

A JSON body needs a content type that says so. What follows the JSON value does not count.
-/

namespace FleetIdentity

namespace HttpRequest

/-- The greatest length of a body. -/
def bodyLimit : Nat := 2 * 1024 * 1024

/-- The body is too long to be read. -/
def isOversized (r : HttpRequest) : Bool :=
  bodyLimit < r.body.length

/-- The request says that its body is JSON. -/
def declaresJson (r : HttpRequest) : Bool :=
  match r.header "content-type" with
  | some value => MediaType.isJson value
  | none => false

/-- The value that a JSON body stands for. -/
def jsonBody {α : Type} (r : HttpRequest) (ofDatum : Datum → Except DatumFault α) :
    Except IdentityError α :=
  if !r.declaresJson then
    .error (.validation "Expected request with `Content-Type: application/json`")
  else if r.isOversized then
    .error (.validation "Failed to buffer the request body: length limit exceeded")
  else match ofDatum (JsonReader.read r.body).1 with
    | .ok a => .ok a
    | .error .unreadable =>
      .error (.validation "Failed to parse the request body as JSON: malformed text")
    | .error .mismatch =>
      .error (.validation
        "Failed to deserialize the JSON body into the target type: unexpected value")

end HttpRequest

end FleetIdentity
