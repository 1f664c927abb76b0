import FleetIdentity.Crypto.Prime
import FleetIdentity.Pki.Authority
import FleetIdentity.Settings.Source

/-!
Issuing certificates: of organizations, which may sign, and of devices, which may not.

An organization signs its own certificate, or an authority in a directory does. A certificate of
either kind is valid for ten years from now, for clients and servers.
-/

namespace FleetIdentity

/-- What issuing takes from outside: random numbers and the time. -/
structure Draw where
  /-- Two large numbers for a key. -/
  numbers : Nat × Nat
  /-- The octets of a serial number. -/
  serial : Octets
  /-- The present moment. -/
  now : Int
  deriving DecidableEq, Repr

/-- A private key and a certificate, both as PEM blocks. -/
structure IssuedCredential where
  privateKeyPem : String
  certificatePem : String
  deriving DecidableEq, Repr

/-- The credential as logs show it, without the key. -/
def IssuedCredential.describe (c : IssuedCredential) : String :=
  Quoted.record "IssuedCredential"
    [("private_key_pem", Quoted.redacted), ("certificate_pem", Quoted.text c.certificatePem)] false

/-- The number of octets of a serial number. -/
def serialLength : Nat := 20

/-- A positive serial number of random octets. -/
def serialOfRandom (random : Octets) : Octets :=
  let n := Octets.toNat random % 2 ^ (8 * serialLength - 1)
  Octets.ofNat serialLength (if n = 0 then 1 else n)

namespace PrivateKey

/-- The number of bits of the modulus of a generated RSA key. -/
def rsaBits : Nat := 2048

/-- A generated RSA key, if there is one and it may sign. -/
def ofGenerated (found : Option Rsa.PrivateKey) : Except PkiError PrivateKey :=
  match found with
  | some key =>
    if KeyFile.maySign key then .ok (.rsa key)
    else .error (.certificateCreation "RSA key rejected by signer: numbers out of range")
  | none => .error (.certificateCreation "RSA key generation failed: no primes found")

/-- A key from random numbers. -/
def generate (algorithm : KeyAlgorithm) (draw : Draw) : Except PkiError PrivateKey :=
  match algorithm with
  | .ecdsaP256 => .ok (.curve .p256 (Ecdsa.scalarOf Weierstrass.p256 draw.numbers.1))
  | .rsa2048 => ofGenerated (Rsa.generate? rsaBits draw.numbers.1 draw.numbers.2)

/-- The algorithm of a key, for the kinds that are generated. -/
def algorithm? : PrivateKey → Option KeyAlgorithm
  | .rsa _ => some .rsa2048
  | .curve .p256 _ => some .ecdsaP256
  | _ => none

end PrivateKey

/-- What a new certificate says besides its issuer and its signature. -/
structure CertificateRequest where
  serial : Octets
  notBefore : Int
  notAfter : Int
  subject : DistinguishedName
  /-- The subject may sign certificates. -/
  isAuthority : Bool
  /-- The octets of the subject's public key with the naming of its kind. -/
  publicKeyInfo : Octets

namespace CertificateRequest

/-- The days that a certificate is valid. -/
def validDays : Int := 3650

/-- The octets of a signature algorithm. -/
def writeAlgorithm (kind : SignatureKind) : Octets :=
  match kind with
  | .rsa digest =>
    let oid := match digest with
      | .sha1 => Oid.rsaSha1
      | .sha256 => Oid.rsaSha256
      | .sha384 => Oid.rsaSha384
      | .sha512 => Oid.rsaSha512
    Asn1.sequence [Asn1.writeTag .oid oid, Asn1.writeTag .null []]
  | .ecdsa _ digest =>
    Asn1.sequence [Asn1.writeTag .oid
      (match digest with
        | .sha384 => Oid.ecdsaSha384
        | _ => Oid.ecdsaSha256)]
  | .ed25519 => Asn1.sequence [Asn1.writeTag .oid Oid.ed25519]

/-- The octets of an extension. -/
def writeExtension (type : Oid) (critical : Bool) (value : Octets) : Octets :=
  Asn1.sequence [Asn1.writeTag .oid type,
    if critical then Asn1.writeTag .boolean [0xFF] else [],
    Asn1.writeTag .octetString value]

/-- The octets of the extensions: key usage, purposes, and those of an authority. -/
def writeExtensions (r : CertificateRequest) : Octets :=
  let usage : Octets := if r.isAuthority then [2, 0x84] else [7, 0x80]
  let common := [
    writeExtension Oid.keyUsage true (Asn1.writeTag .bitString usage),
    writeExtension Oid.extendedKeyUsage false
      (Asn1.sequence [Asn1.writeTag .oid Oid.clientAuth, Asn1.writeTag .oid Oid.serverAuth])]
  let authority := [
    writeExtension Oid.subjectKeyIdentifier false
      (Asn1.writeTag .octetString ((Sha2.sha256.digest r.publicKeyInfo).take 20)),
    writeExtension Oid.basicConstraints true
      (Asn1.sequence [Asn1.writeTag .boolean [0xFF]])]
  Asn1.sequence (if r.isAuthority then common ++ authority else common)

/-- The octets that are signed. -/
def writeSigned (r : CertificateRequest) (issuer : DistinguishedName) (kind : SignatureKind) :
    Octets :=
  Asn1.sequence [
    Asn1.write 0xA0 (Asn1.writeInteger 2),
    Asn1.writeInteger (Octets.toNat r.serial),
    writeAlgorithm kind,
    DistinguishedName.write issuer,
    Asn1.sequence [CertificateTime.write r.notBefore, CertificateTime.write r.notAfter],
    DistinguishedName.write r.subject,
    r.publicKeyInfo,
    Asn1.write 0xA3 r.writeExtensions]

/-- The certificate signed by a key under the name of an issuer. -/
def sign (r : CertificateRequest) (suite : SignatureSuite) (issuer : DistinguishedName)
    (key : PrivateKey) : Octets :=
  let signed := r.writeSigned issuer key.signatureKind
  Asn1.sequence [signed, writeAlgorithm key.signatureKind, Asn1.writeBits (suite.sign key signed)]

/-- The request for the owner of a key. -/
def ofKey (suite : SignatureSuite) (draw : Draw) (attributes : List NameAttribute)
    (isAuthority : Bool) (key : PrivateKey) : CertificateRequest :=
  { serial := serialOfRandom draw.serial
    notBefore := draw.now
    notAfter := draw.now + validDays * 86400
    subject := DistinguishedName.ofAttributes attributes
    isAuthority
    publicKeyInfo := key.publicKeyInfo (suite.publicKey key) }

end CertificateRequest

/-- Issues certificates with keys of one algorithm. -/
structure CertificateIssuer where
  suite : SignatureSuite
  strategy : IssuanceStrategy
  algorithm : KeyAlgorithm
  /-- What the library for certificates makes of the name of an authority. -/
  naming : Certificate → Option DistinguishedName := CertificateAuthority.issuerName?

namespace CertificateIssuer

/-- A key and its certificate as PEM blocks. -/
def credential (suite : SignatureSuite) (key : PrivateKey) (certificate : Octets) :
    IssuedCredential :=
  { privateKeyPem := Pem.encodeKey (key.write (suite.publicKey key))
    certificatePem := Pem.encodeCertificate certificate }

/-- The attributes of an organization; an empty country is left out. -/
def organizationAttributes (name country : String) : List NameAttribute :=
  [NameAttribute.ofText Oid.commonName name, NameAttribute.ofText Oid.organization name] ++
    if country.isEmpty then [] else [NameAttribute.ofText Oid.country country]

/-- Issues the certificate of an organization; `directory` is what the directory of the outside
authority holds. -/
def issueOrganization (i : CertificateIssuer) (directory : Directory) (draw : Draw)
    (name country : String) : Except PkiError IssuedCredential := do
  let key ← PrivateKey.generate i.algorithm draw
  let request :=
    CertificateRequest.ofKey i.suite draw (organizationAttributes name country) true key
  match i.strategy with
  | .selfSigned =>
    return credential i.suite key (request.sign i.suite request.subject key)
  | .externalRoot path =>
    let root ← CertificateAuthority.load i.suite path directory i.naming
    return credential i.suite key (request.sign i.suite root.issuerName root.key)

/-- The attributes of a device. -/
def deviceAttributes (organization id : String) : List NameAttribute :=
  [NameAttribute.ofText Oid.commonName id, NameAttribute.ofText Oid.organization organization]

/-- Issues the certificate of a device under the authority of its organization. -/
def issueDevice (i : CertificateIssuer) (authority : CertificateAuthority) (draw : Draw)
    (organization id : String) : Except PkiError IssuedCredential := do
  let key ← PrivateKey.generate i.algorithm draw
  let request := CertificateRequest.ofKey i.suite draw (deviceAttributes organization id) false key
  return credential i.suite key (request.sign i.suite authority.issuerName authority.key)

end CertificateIssuer

end FleetIdentity
