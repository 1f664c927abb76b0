import FleetIdentity.Service.Basic
import FleetIdentity.Service.EnrollmentPair

/-!
Enrolling the device that a pair of assertions names.

The pair is checked before the store is asked, so that a pair that contradicts itself costs no
lookup.
-/

namespace FleetIdentity

namespace IdentityService

/-- The registered device that an enrollment names. -/
def enrollee (request : EnrollmentRequest) : StoreCall Enrollment := fun store =>
  match store.getDevice request.brand request.model request.serialNumber with
  | .error (.notFound _) => (.error (.notRegistered request.naturalKey), store)
  | outcome => (outcome, store)

/-- Enrolls the device that two verified assertions name, in either order. -/
def enrollDevice (first second : Assertion) : StoreCall Enrollment := do
  let request ← .ofExcept (EnrollmentRequest.ofPair first second)
  let current ← enrollee request
  if current.status ≠ .waiting then
    throw (enrollmentRefusal current.status request.naturalKey)
  .write fun store => store.enrollDevice request

end IdentityService

end FleetIdentity
