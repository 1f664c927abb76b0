import FleetIdentity.Pki.Chain
import FleetIdentity.Pki.KeyFile
import FleetIdentity.Text.Quoted

/-!
Certificate authorities: a certificate that may sign others, with its private key.

What an authority signs names as issuer its own name as a library for certificates makes it anew, so
that library is a parameter here. The one that is taken if no other is given keeps one attribute for
each type, the last one where a type is repeated, at the place of the first. It knows types by their
arcs and writes them in as few octets as they take.
-/

namespace FleetIdentity

/-- An authority with its key and the name that its certificates have as issuer. -/
structure CertificateAuthority where
  certificate : Certificate
  key : PrivateKey
  issuerName : DistinguishedName

namespace CertificateAuthority

/-- A character of a printable string. -/
def isPrintable (x : UInt8) : Bool :=
  let c := Char.ofNat x.toNat
  c.isAlphanum || " '()+,-./:=?".toList.contains c

/-- The characters of four octets each. -/
def areScalars : Octets → Bool
  | [] => true
  | a :: b :: c :: d :: rest => (Octets.toNat [a, b, c, d]).isValidChar && areScalars rest
  | _ => false

/-- The value is one that can be signed with: a string that is valid for its kind. -/
def isUsableValue (a : NameAttribute) : Bool :=
  let content := a.value.content
  if a.hasTag [.utf8String] then (Utf8.decode? content).isSome
  else if a.hasTag [.printableString] then content.all isPrintable
  else if a.hasTag [.ia5String] then content.all (·.toNat < 128)
  else if a.hasTag [.t61String] then content.all fun x => 0x20 ≤ x.toNat && x.toNat < 128
  else if a.hasTag [.bmpString] then
    match NameAttribute.units? content with
    | some units => units.all fun n => n < 0xFFFF && !(0xD800 ≤ n && n < 0xE000)
    | none => false
  else if a.hasTag [.universalString] then areScalars content
  else false

/-- The most octets that an arc of a type may have. -/
def arcLimit : Nat := 9

/-- The type is one that can be signed with: the first arc is known, and none is too long. -/
def isUsableType (type : Oid) : Bool :=
  match type.toArcs with
  | first :: _ :: _ => first < 3 && Oid.arcsFit arcLimit 0 (type.drop 1)
  | _ => false

/-- The attributes of a name whose sets have one usable attribute each. -/
def usableAttributes? (name : DistinguishedName) : Option (List NameAttribute) :=
  name.mapM fun
    | [a] => if isUsableType a.type && isUsableValue a then some a else none
    | _ => none

/-- Puts an attribute in the place of one whose type has the same arcs, or at the end. -/
def insertAttribute (attributes : List NameAttribute) (a : NameAttribute) : List NameAttribute :=
  if attributes.any (·.type.toArcs == a.type.toArcs) then
    attributes.map fun b => if b.type.toArcs = a.type.toArcs then a else b
  else attributes ++ [a]

/-- The attribute as it is written anew: its type in as few octets as its arcs take, and of the kind
of its value the number alone. -/
def rewritten (a : NameAttribute) : NameAttribute :=
  { type := a.type.shortest
    value := {
      identifier := Asn1.Identifier.ofOctet (UInt8.ofNat a.value.identifier.number)
      content := a.value.content } }

/-- The name with one attribute for each type. -/
def rebuild (attributes : List NameAttribute) : DistinguishedName :=
  DistinguishedName.ofAttributes ((attributes.foldl insertAttribute []).map rewritten)

/-- The number of certificates that may follow, in basic constraints. -/
def pathLength? (value : Octets) : Option Nat := do
  let (content, _) ← Asn1.expect? .sequence value
  match ← Asn1.all? Asn1.element? content with
  | [_, length] => some (Octets.toNat length.content)
  | _ => none

/-- The extensions of the certificate can be signed with. Of those that a library reads, only the
number and the length of the path are looked at; what is inside alternative names, constraints of
names and purposes is not, and is taken to be such as the library can read. -/
def hasUsableExtensions (c : Certificate) : Bool :=
  [Oid.keyUsage, Oid.extendedKeyUsage, Oid.alternativeName, Oid.nameConstraints].all
    (fun type => (c.extensions.filter (·.type == type)).length ≤ 1) &&
  (((c.extension? Oid.basicConstraints).bind (pathLength? ·.value)).getD 0) ≤ 255

/-- The name that the certificates of an authority have as issuer, if it can sign. -/
def issuerName? (c : Certificate) : Option DistinguishedName := do
  let attributes ← usableAttributes? c.subject
  if hasUsableExtensions c then some (rebuild attributes) else none

/-- The authority of a certificate and a key; `naming` is what a library makes of the name of a
certificate that it can sign with. -/
def ofParts (suite : SignatureSuite) (c : Certificate) (key : PrivateKey)
    (naming : Certificate → Option DistinguishedName := issuerName?) :
    Except PkiError CertificateAuthority :=
  if key.publicKeyInfo (suite.publicKey key) ≠ c.publicKey.octets then
    .error (.caUnavailable "CA key does not match CA certificate")
  else match naming c with
    | none => .error (.caUnavailable "CA certificate unusable: unsupported name or extension")
    | some issuerName => .ok { certificate := c, key, issuerName }

/-- A failure as part of the failure to have an authority. -/
def unavailable {α : Type} (what : String) : Except PkiError α → Except PkiError α
  | .ok a => .ok a
  | .error e => .error (.caUnavailable s!"{what}: {e.message}")

/-- The authority of two PEM blocks. -/
def ofPem (suite : SignatureSuite) (certificate key : String)
    (naming : Certificate → Option DistinguishedName := issuerName?) :
    Except PkiError CertificateAuthority := do
  let c ← unavailable "CA certificate" (Certificate.ofPem (Utf8.ofString certificate))
  if !c.isAuthority then
    throw (.caUnavailable s!"'{c.subjectText}' is not a CA certificate")
  let key ← unavailable "CA key" (PrivateKey.ofPem suite key)
  ofParts suite c key naming

/-- The authority as logs show it, without its key. -/
def describe (a : CertificateAuthority) : String :=
  Quoted.record "CertificateAuthority"
    [("subject", Quoted.text a.certificate.subjectText),
      ("serial", Quoted.text a.certificate.serialText)] true

end CertificateAuthority

/-- The file of an authority's certificate. -/
def authorityCertificateFile : String := "ca.crt"

/-- The file of an authority's key. -/
def authorityKeyFile : String := "ca.key"

/-- A directory by the texts of its files; a file that cannot be read as text has none. -/
abbrev Directory := List (String × String)

namespace CertificateAuthority

/-- The text of a file in a directory that is called `path`. -/
def fileText (path : String) (directory : Directory) (name : String) : Except PkiError String :=
  match directory.lookup name with
  | some text => .ok text
  | none => .error (.caUnavailable s!"{path}/{name}: no such file")

/-- The authority in a directory that is called `path`. -/
def load (suite : SignatureSuite) (path : String) (directory : Directory)
    (naming : Certificate → Option DistinguishedName := issuerName?) :
    Except PkiError CertificateAuthority := do
  let certificate ← fileText path directory authorityCertificateFile
  let key ← fileText path directory authorityKeyFile
  ofPem suite certificate key naming

end CertificateAuthority

end FleetIdentity
