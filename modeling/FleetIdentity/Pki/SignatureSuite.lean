import FleetIdentity.Crypto.Ecdsa
import FleetIdentity.Crypto.Ed25519
import FleetIdentity.Crypto.Sha1
import FleetIdentity.Pki.PrivateKey

/-!
The signatures of certificates.

What certificates need of the cryptography is three functions: the public half of a key, signing,
and verifying. Everything else about certificates holds for any suite; the service uses RSA, ECDSA
on two curves and Ed25519.
-/

namespace FleetIdentity

/-- The digests that are signed. -/
inductive SignedDigest where
  | sha1
  | sha256
  | sha384
  | sha512
  deriving DecidableEq, Repr

/-- How a signature is made. -/
inductive SignatureKind where
  | rsa (digest : SignedDigest)
  | ecdsa (curve : NamedCurve) (digest : SignedDigest)
  | ed25519
  deriving DecidableEq, Repr

/-- What certificates need of the cryptography. -/
structure SignatureSuite where
  /-- The octets of the public half of a key. -/
  publicKey : PrivateKey → Octets
  /-- The signature that the owner of a key makes. -/
  sign : PrivateKey → (message : Octets) → Octets
  /-- A signature of a message under a public key is good. -/
  verify : SignatureKind → (key message signature : Octets) → Bool

namespace SignedDigest

/-- The digest of a message. -/
def digest : SignedDigest → Octets → Octets
  | .sha1 => Sha1.digest
  | .sha256 => Sha2.sha256.digest
  | .sha384 => Sha2.sha384.digest
  | .sha512 => Sha2.sha512.digest

/-- The identifier of a digest. -/
def oid : SignedDigest → Oid
  | .sha1 => Oid.sha1
  | .sha256 => Oid.sha2 1
  | .sha384 => Oid.sha2 2
  | .sha512 => Oid.sha2 3

/-- The digest of a message with its identifier. -/
def named (d : SignedDigest) (message : Octets) : Octets :=
  Asn1.sequence [
    Asn1.sequence [Asn1.writeTag .oid d.oid, Asn1.writeTag .null []],
    Asn1.writeTag .octetString (d.digest message)]

/-- The fewest octets of an RSA modulus that the digest is accepted with. -/
def leastModulus : SignedDigest → Nat
  | .sha1 => 128
  | _ => 256

end SignedDigest

namespace PrivateKey

/-- How a key signs. -/
def signatureKind : PrivateKey → SignatureKind
  | .ed25519 _ => .ed25519
  | .curve .p256 _ => .ecdsa .p256 .sha256
  | .curve .p384 _ => .ecdsa .p384 .sha384
  | .rsa _ => .rsa .sha256

end PrivateKey

namespace SignatureSuite

/-- The octets of the public half of a key. -/
def publicKeyOf : PrivateKey → Octets
  | .ed25519 seed => Ed25519.publicKey seed
  | .curve name secret => Ecdsa.publicKey name.curve secret
  | .rsa key => PrivateKey.rsaPublic key.toPublic

/-- The signature that the owner of a key makes. -/
def signWith (k : PrivateKey) (message : Octets) : Octets :=
  match k with
  | .ed25519 seed => Ed25519.sign seed message
  | .curve name secret =>
    let digest : SignedDigest := match name with
      | .p256 => .sha256
      | .p384 => .sha384
    let (r, s) := Ecdsa.sign name.curve secret (digest.digest message)
    Asn1.sequence [Asn1.writeInteger r, Asn1.writeInteger s]
  | .rsa key => Rsa.sign key (SignedDigest.sha256.named message)

/-- The two numbers of an ECDSA signature. -/
def readPair? (signature : Octets) : Option (Nat × Nat) := do
  let content ← Asn1.Strict.whole? .sequence signature
  let (r, rest) ← Asn1.Strict.positive? content
  match ← Asn1.Strict.positive? rest with
  | (s, []) => some (r, s)
  | _ => none

/-- The RSA public key in octets, within the limits of signatures. -/
def readRsa? (least : Nat) (key : Octets) : Option Rsa.PublicKey := do
  let content ← Asn1.Strict.whole? .sequence key
  let (modulus, rest) ← Asn1.Strict.positive? content
  match ← Asn1.Strict.positive? rest with
  | (exponent, []) =>
    let k : Rsa.PublicKey := { modulus, exponent }
    if modulus % 2 = 1 ∧ exponent % 2 = 1 ∧ 3 ≤ exponent ∧ exponent < 2 ^ 33 ∧
        least ≤ k.octets ∧ Rsa.bitLength modulus ≤ 8192 then some k
    else none
  | _ => none

/-- A signature of a message under a public key is good. -/
def verifyWith (kind : SignatureKind) (key message signature : Octets) : Bool :=
  match kind with
  | .ed25519 => Ed25519.verify key message signature
  | .ecdsa name digest =>
    match readPair? signature with
    | some pair => Ecdsa.verify name.curve key (digest.digest message) pair
    | none => false
  | .rsa digest =>
    match readRsa? digest.leastModulus key with
    | some k => Rsa.verify k (digest.named message) signature
    | none => false

/-- RSA, ECDSA and Ed25519. -/
def standard : SignatureSuite where
  publicKey := publicKeyOf
  sign := signWith
  verify := verifyWith

end SignatureSuite

end FleetIdentity
