import FleetIdentity.Assertion.Header
import FleetIdentity.Error

/-!
What can be wrong with an assertion stream, or with the headers to be signed.
-/

namespace FleetIdentity

/-- Why a stream was not accepted or headers were not signed. -/
inductive AssertionFault where
  | notUtf8
  | notSigned
  | block (fault : HeaderFault)
  | headerRequired (name : String)
  | untrustedKey (keyId : String)
  | foreignKey (keyId authorityId : String)
  | notBase64
  | signatureLength
  | badSignature (authorityId : String)
  | notAPair (count : Nat)
  | reservedHeader (name : String)
  | dashLine (name : String)
  | emptyList (name : String)
  | itemSpansLines (name : String)
  deriving DecidableEq, Repr

namespace AssertionFault

/-- The text shown to people. -/
def message : AssertionFault → String
  | .notUtf8 => "assertion stream is not valid UTF-8"
  | .notSigned => "assertion is not signed"
  | .block fault => fault.message
  | .headerRequired name => s!"header `{name}` is required"
  | .untrustedKey keyId => s!"signing key `{keyId}` is not trusted"
  | .foreignKey keyId authorityId =>
    s!"signing key `{keyId}` does not belong to authority `{authorityId}`"
  | .notBase64 => "signature is not base64: symbol, length or padding out of place"
  | .signatureLength => "signature must be 64 bytes"
  | .badSignature authorityId => s!"bad signature from authority `{authorityId}`"
  | .notAPair count => s!"expected exactly 2 assertions, found {count}"
  | .reservedHeader name => s!"header `{name}` is set by the signer"
  | .dashLine name => s!"text of header `{name}` has a line starting with `- `"
  | .emptyList name => s!"list header `{name}` is empty"
  | .itemSpansLines name => s!"item of list header `{name}` spans lines"

/-- The fault as a failure of the service. -/
def toError (fault : AssertionFault) : IdentityError :=
  .invalidAssertion fault.message

end AssertionFault

end FleetIdentity
