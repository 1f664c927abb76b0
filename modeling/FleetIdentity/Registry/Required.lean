import FleetIdentity.Error
import FleetIdentity.Text.Blank

/-!
Fields that must not be blank.
-/

namespace FleetIdentity

/-- Refuses a blank value of a field. -/
def requireField (field value : String) : Except IdentityError Unit :=
  if isBlank value then .error (.validation s!"{field} must not be empty") else .ok ()

theorem requireField_eq_ok_iff {field value : String} :
    requireField field value = .ok () ↔ isBlank value = false := by
  unfold requireField
  split <;> simp_all

end FleetIdentity
