/-!
Failures of the certificate infrastructure, each with a stable code and a message.
-/

namespace FleetIdentity

/-- Why a certificate or key could not be used. -/
inductive PkiError where
  /-- A certificate authority is missing, unreadable or not usable. -/
  | caUnavailable (reason : String)
  /-- A key could not be generated or a certificate not signed. -/
  | certificateCreation (reason : String)
  /-- Octets are no certificate and no key. -/
  | parse (reason : String)
  /-- A certificate was not issued by the presented authority. -/
  | chainVerification (reason : String)
  deriving DecidableEq, Repr

namespace PkiError

/-- The stable identifier of the failure. -/
def code : PkiError → String
  | .caUnavailable _ => "ca_unavailable"
  | .certificateCreation _ => "certificate_creation"
  | .parse _ => "parse_error"
  | .chainVerification _ => "chain_verification"

/-- The text shown to people. -/
def message : PkiError → String
  | .caUnavailable reason => s!"CA unavailable: {reason}"
  | .certificateCreation reason => s!"Certificate creation failed: {reason}"
  | .parse reason => s!"Certificate parse error: {reason}"
  | .chainVerification reason => s!"Chain verification failed: {reason}"

/-- The failure of a certificate whose issuer is called otherwise than the one at hand. -/
def otherIssuer (issuer subject : String) : PkiError :=
  .chainVerification s!"issued by '{issuer}', not '{subject}'"

end PkiError

end FleetIdentity
