import FleetIdentity.Asn1.Oid
import FleetIdentity.Asn1.Strict
import FleetIdentity.Crypto.Rsa
import FleetIdentity.Crypto.Weierstrass

/-!
Private keys: the four kinds, and how they are written.

A key is written as a PKCS #8 structure: the kind of key, then the key in a form of its own. Its
public half is written with the same naming of the kind.
-/

namespace FleetIdentity

/-- The curves that keys are on. -/
inductive NamedCurve where
  | p256
  | p384
  deriving DecidableEq, Repr

namespace NamedCurve

/-- The curve. -/
def curve : NamedCurve → Weierstrass.Curve
  | .p256 => Weierstrass.p256
  | .p384 => Weierstrass.p384

/-- The identifier of the curve. -/
def oid : NamedCurve → Oid
  | .p256 => Oid.p256
  | .p384 => Oid.p384

/-- The curve of an identifier. -/
def ofOid? (oid : Oid) : Option NamedCurve :=
  if oid = Oid.p256 then some .p256 else if oid = Oid.p384 then some .p384 else none

end NamedCurve

/-- A private key. -/
inductive PrivateKey where
  | ed25519 (seed : Octets)
  | curve (name : NamedCurve) (secret : Nat)
  | rsa (key : Rsa.PrivateKey)
  deriving DecidableEq

namespace PrivateKey

/-- The naming of the kind of key, as the content of a sequence. -/
def kind : PrivateKey → Octets
  | .ed25519 _ => Asn1.writeTag .oid Oid.ed25519
  | .curve name _ => Asn1.writeTag .oid Oid.ecPublicKey ++ Asn1.writeTag .oid name.oid
  | .rsa _ => Asn1.writeTag .oid Oid.rsaEncryption ++ Asn1.writeTag .null []

/-- The octets of an RSA public key. -/
def rsaPublic (k : Rsa.PublicKey) : Octets :=
  Asn1.sequence [Asn1.writeInteger k.modulus, Asn1.writeInteger k.exponent]

/-- The octets of an RSA private key. -/
def rsaPrivate (k : Rsa.PrivateKey) : Octets :=
  Asn1.sequence [Asn1.writeInteger 0, Asn1.writeInteger k.modulus,
    Asn1.writeInteger k.publicExponent, Asn1.writeInteger k.privateExponent,
    Asn1.writeInteger k.prime₁, Asn1.writeInteger k.prime₂, Asn1.writeInteger k.exponent₁,
    Asn1.writeInteger k.exponent₂, Asn1.writeInteger k.coefficient]

/-- The key itself, in the form of its kind; `publicKey` are the octets of the public half. -/
def body (publicKey : Octets) : PrivateKey → Octets
  | .ed25519 seed => Asn1.writeTag .octetString seed
  | .curve name secret =>
    Asn1.sequence [Asn1.writeInteger 1,
      Asn1.writeTag .octetString (Octets.ofNat name.curve.octets secret),
      Asn1.write 0xA1 (Asn1.writeBits publicKey)]
  | .rsa key => rsaPrivate key

/-- The PKCS #8 structure of a key. -/
def write (publicKey : Octets) (k : PrivateKey) : Octets :=
  Asn1.sequence [Asn1.writeInteger 0, Asn1.writeTag .sequence k.kind,
    Asn1.writeTag .octetString (k.body publicKey)]

/-- The public half with the naming of its kind. -/
def publicKeyInfo (publicKey : Octets) (k : PrivateKey) : Octets :=
  Asn1.sequence [Asn1.writeTag .sequence k.kind, Asn1.writeBits publicKey]

end PrivateKey

end FleetIdentity
