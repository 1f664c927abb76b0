import FleetIdentity.Pki.Certificate
import FleetIdentity.Pki.SignatureSuite

/-!
Whether one certificate was issued under another.

The issuer must be an authority, the names must read alike, and the signature must verify under the
issuer's key. Validity and key usage do not count.
-/

namespace FleetIdentity

namespace Certificate

/-- The curve that a public key says it is on. -/
def curveOf? (key : PublicKeyInfo) : Option NamedCurve := do
  let parameters ← key.algorithm.parameters
  if parameters.identifier.number = Asn1.Tag.oid.number then NamedCurve.ofOid? parameters.content
  else none

/-- How a signature under a public key is to be verified. RSA signatures with probabilistic padding
(RSASSA-PSS) are left out: like those of an unknown algorithm they do not verify. -/
def signatureKind? (algorithm : Oid) (key : PublicKeyInfo) : Option SignatureKind :=
  if algorithm = Oid.rsaSha1 ∨ algorithm = Oid.rsaSha1Old then some (.rsa .sha1)
  else if algorithm = Oid.rsaSha256 then some (.rsa .sha256)
  else if algorithm = Oid.rsaSha384 then some (.rsa .sha384)
  else if algorithm = Oid.rsaSha512 then some (.rsa .sha512)
  else if algorithm = Oid.ecdsaSha256 then (curveOf? key).map (.ecdsa · .sha256)
  else if algorithm = Oid.ecdsaSha384 then (curveOf? key).map (.ecdsa · .sha384)
  else if algorithm = Oid.ed25519 then some .ed25519
  else none

/-- The signature of the certificate verifies under a public key. -/
def isSignedBy (suite : SignatureSuite) (c : Certificate) (key : PublicKeyInfo) : Bool :=
  match signatureKind? c.signatureAlgorithm.algorithm key with
  | some kind => suite.verify kind key.key c.signed c.signature
  | none => false

/-- The certificate was issued under another. -/
def verifyIssuedBy (suite : SignatureSuite) (c issuer : Certificate) : Except PkiError Unit :=
  if !issuer.isAuthority then
    .error (.chainVerification s!"'{issuer.subjectText}' is not a CA certificate")
  else if c.issuerText ≠ issuer.subjectText then
    .error (.otherIssuer c.issuerText issuer.subjectText)
  else if c.isSignedBy suite issuer.publicKey then .ok ()
  else
    .error (.chainVerification
      s!"signature does not verify against '{issuer.subjectText}': bad or unsupported signature")

end Certificate

end FleetIdentity
