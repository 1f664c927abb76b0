import FleetIdentity.Error
import FleetIdentity.Json
import FleetIdentity.Octets

/-!
Requests and responses, as far as the service has to do with them.
-/

namespace FleetIdentity

/-- The method of a request; methods that no route has are all the same. -/
inductive HttpMethod where
  | get
  | head
  | post
  | put
  | other
  deriving DecidableEq, Repr

/-- The method with a name, which is in capitals. -/
def HttpMethod.ofName (name : String) : HttpMethod :=
  match name with
  | "GET" => .get
  | "HEAD" => .head
  | "POST" => .post
  | "PUT" => .put
  | _ => .other

/-- A request. -/
structure HttpRequest where
  method : HttpMethod
  /-- What the request is for: a path, perhaps with a query, or a whole address. -/
  target : String
  headers : List (String × String)
  body : Octets

namespace HttpRequest

/-- The value of the first header with a name, which is given in small letters. -/
def header (r : HttpRequest) (name : String) : Option String :=
  (r.headers.find? fun (other, _) => other.toLower == name).map (·.2)

end HttpRequest

/-- A response; the body is absent where it would not be JSON. -/
structure HttpResponse where
  status : Nat
  body : Option Json

/-- The status of the response to a failing request. -/
def IdentityError.httpStatus : IdentityError → Nat
  | .validation _ | .assertionType _ | .missingHeader _ | .mismatch _ | .invalidAssertion _ => 400
  | .notFound _ | .notRegistered _ => 404
  | .duplicate _ | .alreadyEnrolled _ | .disabled _ | .invalidState _ => 409
  | .forbiddenTransition _ => 403
  | .pki _ | .storage _ => 500

namespace HttpResponse

/-- A response that is a status and nothing else. -/
def bare (status : Nat) : HttpResponse :=
  { status, body := none }

/-- A good response with what was asked for. -/
def success (members : List (String × Json)) : HttpResponse :=
  { status := 200, body := some (.object ([("code", .text ""), ("message", .text "")] ++ members)) }

/-- The response to a failing request. -/
def failure (e : IdentityError) : HttpResponse :=
  { status := e.httpStatus
    body := some (.object [("code", .text e.code), ("message", .text e.message)]) }

end HttpResponse

end FleetIdentity
