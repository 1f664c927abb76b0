import FleetIdentity.Pki.Error
import FleetIdentity.Pki.Name
import FleetIdentity.Pki.Pem
import FleetIdentity.Pki.Time

/-!
X.509 certificates: what is read from their octets.

Reading is generous. Octets after the certificate, and after the known parts of most elements, do
not count; versions are not checked; a basic-constraints extension that cannot be read, or that
occurs twice, makes no authority.
-/

namespace FleetIdentity

/-- An algorithm with its parameters. -/
structure AlgorithmIdentifier where
  algorithm : Oid
  parameters : Option Asn1.Element
  deriving DecidableEq, Repr

/-- A public key with its algorithm, and the octets of both. -/
structure PublicKeyInfo where
  octets : Octets
  algorithm : AlgorithmIdentifier
  key : Octets
  deriving DecidableEq, Repr

/-- An extension of a certificate. -/
structure CertificateExtension where
  type : Oid
  critical : Bool
  value : Octets
  deriving DecidableEq, Repr

/-- A certificate. -/
structure Certificate where
  /-- All octets, those after the certificate included. -/
  der : Octets
  /-- The octets that are signed. -/
  signed : Octets
  version : Nat
  serial : Octets
  issuer : DistinguishedName
  notBefore : Int
  notAfter : Int
  subject : DistinguishedName
  publicKey : PublicKeyInfo
  extensions : List CertificateExtension
  signatureAlgorithm : AlgorithmIdentifier
  signature : Octets
  deriving DecidableEq, Repr

namespace AlgorithmIdentifier

/-- The algorithm at the front. -/
def read? (octets : Octets) : Option (AlgorithmIdentifier × Octets) := do
  let (content, rest) ← Asn1.expect? .sequence octets
  let (algorithm, content) ← Asn1.primitive? .oid content
  if content.isEmpty then return ({ algorithm, parameters := none }, rest)
  let (parameters, _) ← Asn1.element? content
  return ({ algorithm, parameters := some parameters }, rest)

end AlgorithmIdentifier

namespace PublicKeyInfo

/-- The public key at the front. -/
def read? (octets : Octets) : Option (PublicKeyInfo × Octets) := do
  let (content, rest) ← Asn1.expect? .sequence octets
  let (algorithm, more) ← AlgorithmIdentifier.read? content
  let (key, extra) ← Asn1.bitString? more
  let raw := Asn1.consumed octets rest
  return ({ octets := raw.take (raw.length - extra.length), algorithm, key }, rest)

end PublicKeyInfo

namespace CertificateExtension

/-- The flag at the front; any octet but zero sets it. -/
def readFlag (octets : Octets) : Bool × Octets :=
  match Asn1.primitive? .boolean octets with
  | some ([x], rest) => (x ≠ 0, rest)
  | _ => (false, octets)

/-- The extension at the front. -/
def read? (octets : Octets) : Option (CertificateExtension × Octets) := do
  let (content, rest) ← Asn1.expect? .sequence octets
  let (type, content) ← Asn1.primitive? .oid content
  let (critical, content) := readFlag content
  let (value, _) ← Asn1.primitive? .octetString content
  return ({ type, critical, value }, rest)

/-- The extensions that end the signed part, if there are any. -/
def readAll? (octets : Octets) : Option (List CertificateExtension) :=
  if octets.isEmpty then some []
  else do
    let (identifier, rest) ← Asn1.identifier? octets
    let (_, rest) ← Asn1.length? rest
    if identifier.number ≠ 3 then none
    match ← Asn1.expect? .sequence rest with
    | (content, []) => Asn1.all? read? content
    | _ => none

/-- The flag of an authority in basic constraints. -/
def authority? (value : Octets) : Option Bool := do
  let (content, _) ← Asn1.expect? .sequence value
  let flag? (e : Asn1.Element) : Option Bool :=
    if e.identifier = { tagClass := 0, constructed := false, number := 1 } then
      if e.content = [0xFF] then some true else if e.content = [0] then some false else none
    else none
  let isLength (e : Asn1.Element) : Bool :=
    e.identifier = { tagClass := 0, constructed := false, number := 2 } &&
      (e.content.headD 0x80).toNat < 128 && Octets.toNat e.content < 2 ^ 32
  match ← Asn1.all? Asn1.element? content with
  | [] => some false
  | [e] => if isLength e then some false else flag? e
  | [e, length] => if isLength length then flag? e else none
  | _ => none

/-- The bits of a key usage, the first one in front. -/
def usageBits (value : Octets) : List Bool :=
  match Asn1.bitString? value with
  | some (bits, _) =>
    bits.flatMap fun x => (List.range 8).map fun i => x.toNat / 2 ^ (7 - i) % 2 == 1
  | none => []

/-- The purposes of an extended key usage. -/
def purposes (value : Octets) : List Oid :=
  match Asn1.expect? .sequence value with
  | some (content, _) => (Asn1.many (Asn1.primitive? .oid) content.length content).1
  | none => []

end CertificateExtension

namespace Certificate

/-- The version number at the front, which may be left out. -/
def readVersion? (octets : Octets) : Option (Nat × Octets) :=
  match Asn1.element? octets with
  | none => if octets.isEmpty then some (0, octets) else none
  | some (e, rest) =>
    if e.identifier.tagClass = 2 ∧ e.identifier.number = 0 then do
      let (content, _) ← Asn1.primitive? .integer e.content
      let needless : Bool := match content with
        | 0 :: x :: _ => x.toNat < 128
        | _ => false
      if content.isEmpty ∨ needless ∨ 128 ≤ (content.headD 0).toNat ∨
          2 ^ 32 ≤ Octets.toNat content then none
      return (Octets.toNat content, rest)
    else some (0, octets)

/-- The octets after an identifier of the issuer or the subject, which may be left out. -/
def skipUniqueId? (number : Nat) (octets : Octets) : Option Octets :=
  match Asn1.element? octets with
  | none => if octets.isEmpty then some octets else none
  | some (e, rest) =>
    if e.identifier.tagClass = 2 ∧ e.identifier.number = number then
      (Asn1.bits? e.content).map fun _ => rest
    else some octets

/-- The certificate at the front of octets. -/
def read? (der : Octets) : Option Certificate := do
  let (content, _) ← Asn1.expect? .sequence der
  let (signed, rest) ← Asn1.expect? .sequence content
  let (version, more) ← readVersion? signed
  let (serial, more) ← Asn1.expect? .integer more
  let (_, more) ← AlgorithmIdentifier.read? more
  let (issuer, more) ← DistinguishedName.read? more
  let (validity, more) ← Asn1.expect? .sequence more
  let (notBefore, validity) ← CertificateTime.read? validity
  let (notAfter, _) ← CertificateTime.read? validity
  let (subject, more) ← DistinguishedName.read? more
  let (publicKey, more) ← PublicKeyInfo.read? more
  let more ← skipUniqueId? 1 more
  let more ← skipUniqueId? 2 more
  let extensions ← CertificateExtension.readAll? more
  let (signatureAlgorithm, last) ← AlgorithmIdentifier.read? rest
  let (signature, _) ← Asn1.bitString? last
  return {
    der
    signed := Asn1.consumed content rest
    version
    serial
    issuer
    notBefore
    notAfter
    subject
    publicKey
    extensions
    signatureAlgorithm
    signature }

/-- The certificate at the front of octets, or the failure that there is none. -/
def ofDer (der : Octets) : Except PkiError Certificate :=
  match read? der with
  | some c => .ok c
  | none => .error (.parse "invalid X.509 certificate: malformed element")

/-- The certificate in a PEM block. -/
def ofPem (octets : Octets) : Except PkiError Certificate :=
  match Pem.parse? octets with
  | none => .error (.parse "not a PEM document: no block")
  | some block =>
    if block.label = Pem.certificateLabel then ofDer block.content
    else .error (.parse s!"expected CERTIFICATE block, found '{block.label}'")

/-- The certificate as a PEM block. -/
def toPem (c : Certificate) : String :=
  Pem.encodeCertificate c.der

/-- The extension of a type, if it occurs once. -/
def extension? (c : Certificate) (type : Oid) : Option CertificateExtension :=
  match c.extensions.filter (·.type == type) with
  | [e] => some e
  | _ => none

/-- The subject may sign certificates. -/
def isAuthority (c : Certificate) : Bool :=
  ((c.extension? Oid.basicConstraints).bind (CertificateExtension.authority? ·.value)).getD false

/-- The common name of the subject. -/
def commonName (c : Certificate) : Option String :=
  (c.subject.first? Oid.commonName).bind NameAttribute.plainText?

/-- The organization of the subject. -/
def organization (c : Certificate) : Option String :=
  (c.subject.first? Oid.organization).bind NameAttribute.plainText?

/-- The subject as text. -/
def subjectText (c : Certificate) : String :=
  DistinguishedName.text c.subject

/-- The issuer as text. -/
def issuerText (c : Certificate) : String :=
  DistinguishedName.text c.issuer

/-- The digits of the serial number. -/
def serialText (c : Certificate) : String :=
  Hex.text c.serial

/-- The certificate is valid at a moment, both ends included. -/
def isValidAt (c : Certificate) (moment : Int) : Bool :=
  c.notBefore ≤ moment && moment ≤ c.notAfter

/-- The names of key usages by their bits, in the order in which they are listed. -/
def usageNames : List (Nat × String) :=
  [(0, "digitalSignature"), (5, "keyCertSign"), (6, "cRLSign"), (2, "keyEncipherment")]

/-- What the key of the subject is for. -/
def keyUsages (c : Certificate) : List String :=
  match c.extension? Oid.keyUsage with
  | none => []
  | some e =>
    let bits := CertificateExtension.usageBits e.value
    (usageNames.filter fun (bit, _) => bits.getD bit false).map (·.2)

/-- The names of purposes, in the order in which they are listed. -/
def purposeNames : List (Oid × String) :=
  [(Oid.clientAuth, "clientAuth"), (Oid.serverAuth, "serverAuth")]

/-- In which protocols the key of the subject is used. -/
def extendedKeyUsages (c : Certificate) : List String :=
  match c.extension? Oid.extendedKeyUsage with
  | none => []
  | some e =>
    let purposes := CertificateExtension.purposes e.value
    (purposeNames.filter fun (purpose, _) => purposes.contains purpose).map (·.2)

end Certificate

end FleetIdentity
