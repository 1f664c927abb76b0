import FleetIdentity.Pki.Error

/-!
Failures of the identity service, each with a stable code and a message.

Every failure of registration, enrollment and status management is exactly one of these kinds. The
kind decides the code and the fixed part of the message; the text says what the failure is about.
-/

namespace FleetIdentity

/-- Why an identity operation was refused. -/
inductive IdentityError where
  /-- A required field is missing or blank. -/
  | validation (text : String)
  /-- A name or a device identity is taken. -/
  | duplicate (text : String)
  /-- An organization or a device is unknown. -/
  | notFound (text : String)
  /-- The device to enroll was never registered. -/
  | notRegistered (device : String)
  /-- An assertion is of the wrong kind, or a header of the wrong shape. -/
  | assertionType (text : String)
  /-- A required assertion header is absent. -/
  | missingHeader (name : String)
  /-- The two assertions of a pair disagree. -/
  | mismatch (text : String)
  /-- An assertion stream is malformed, unsigned or signed by a key without trust. -/
  | invalidAssertion (text : String)
  /-- The device has completed its enrollment. -/
  | alreadyEnrolled (device : String)
  /-- The device was disabled by an administrator. -/
  | disabled (device : String)
  /-- What is stored does not allow the operation. -/
  | invalidState (text : String)
  /-- The status change is never allowed. -/
  | forbiddenTransition (text : String)
  /-- The certificate infrastructure failed. -/
  | pki (error : PkiError)
  /-- The store failed. -/
  | storage (text : String)
  deriving DecidableEq, Repr

namespace IdentityError

/-- The stable identifier of the failure. -/
def code : IdentityError → String
  | .validation _ => "validation_error"
  | .duplicate _ => "duplicate"
  | .notFound _ => "not_found"
  | .notRegistered _ => "not_registered"
  | .assertionType _ => "assertion_type"
  | .missingHeader _ => "missing_header"
  | .mismatch _ => "mismatch"
  | .invalidAssertion _ => "invalid_assertion"
  | .alreadyEnrolled _ => "already_enrolled"
  | .disabled _ => "disabled"
  | .invalidState _ => "invalid_state"
  | .forbiddenTransition _ => "forbidden_transition"
  | .pki e => e.code
  | .storage _ => "storage_error"

/-- The text shown to people. -/
def message : IdentityError → String
  | .validation text => text
  | .duplicate text => text
  | .notFound text => text
  | .notRegistered device => s!"device `{device}` is not registered"
  | .assertionType text => s!"Assertion type error: {text}"
  | .missingHeader name => s!"assertion header `{name}` is missing"
  | .mismatch text => text
  | .invalidAssertion text => s!"Invalid assertion: {text}"
  | .alreadyEnrolled device => s!"device `{device}` is already enrolled"
  | .disabled device => s!"device `{device}` is disabled"
  | .invalidState text => s!"Invalid state: {text}"
  | .forbiddenTransition text => s!"Forbidden transition: {text}"
  | .pki e => e.message
  | .storage text => s!"Storage error: {text}"

end IdentityError

/-- The failures of the certificate infrastructure as failures of the service. -/
def liftPki {α : Type} : Except PkiError α → Except IdentityError α
  | .ok a => .ok a
  | .error e => .error (.pki e)

end FleetIdentity
