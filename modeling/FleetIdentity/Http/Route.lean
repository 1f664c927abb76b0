import FleetIdentity.Http.Message
import FleetIdentity.Http.Path

/-!
The routes of the service.

A route is found by the path as it is written; the texts of its parameters are decoded afterwards. A
path whose last segment is empty belongs to no route.
-/

namespace FleetIdentity

/-- What a path stands for; parameters are as they are written. -/
inductive Route where
  | health
  | organization
  | organizations
  | device
  | devices (owner : String)
  | enroll
  | deviceOf (owner id : String)
  deriving DecidableEq, Repr

namespace Route

/-- The route of a path in pieces. -/
def ofSegments? : List String → Option Route
  | ["", "health"] => some .health
  | ["", "v1", "organization"] => some .organization
  | ["", "v1", "organizations"] => some .organizations
  | ["", "v1", "device"] => some .device
  | ["", "v1", "device", "enroll"] => some .enroll
  | ["", "v1", "devices", owner] => if owner.isEmpty then none else some (.devices owner)
  | ["", "v1", "device", owner, id] => if id.isEmpty then none else some (.deviceOf owner id)
  | _ => none

/-- The route of a target. -/
def ofTarget? (target : String) : Option Route :=
  ofSegments? (HttpPath.segments (HttpPath.ofTarget target))

/-- The route answers a method; it answers HEAD where it answers GET. -/
def allows : Route → HttpMethod → Bool
  | .health, m | .organizations, m | .devices _, m => m == .get || m == .head
  | .organization, m | .device, m | .enroll, m => m == .post
  | .deviceOf _ _, m => m == .get || m == .head || m == .put

end Route

end FleetIdentity
