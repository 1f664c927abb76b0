import FleetIdentity.Crypto.Modular
import FleetIdentity.Octets

/-!
RSA signatures with the padding of PKCS #1 version 1.5.

A signature is the padded digest to the power of the private exponent. The padding names the hash
function, so the caller hands over the octets that name it in front of the digest.
-/

namespace FleetIdentity.Rsa

/-- A public key. -/
structure PublicKey where
  modulus : Nat
  exponent : Nat
  deriving DecidableEq

/-- A private key with two primes and the numbers derived from them. -/
structure PrivateKey where
  modulus : Nat
  publicExponent : Nat
  privateExponent : Nat
  prime₁ : Nat
  prime₂ : Nat
  exponent₁ : Nat
  exponent₂ : Nat
  coefficient : Nat
  deriving DecidableEq

/-- The number of bits of a number. -/
def bitLength (n : Nat) : Nat :=
  if n = 0 then 0 else n.log2 + 1

/-- The public half of a private key. -/
def PrivateKey.toPublic (k : PrivateKey) : PublicKey :=
  { modulus := k.modulus, exponent := k.publicExponent }

/-- The octets of the modulus. -/
def PublicKey.octets (k : PublicKey) : Nat :=
  (bitLength k.modulus + 7) / 8

/-- The padded digest: `0, 1, 255 …, 0`, the name of the hash function, the digest. -/
def pad (length : Nat) (named : Octets) : Octets :=
  0 :: 1 :: List.replicate (length - named.length - 3) 0xFF ++ 0 :: named

/-- The signature of a digest with its hash function named. -/
def sign (k : PrivateKey) (named : Octets) : Octets :=
  let length := k.toPublic.octets
  Octets.ofNat length (Modular.pow k.modulus (Octets.toNat (pad length named)) k.privateExponent)

/-- The signature of a digest with its hash function named verifies under a public key. -/
def verify (k : PublicKey) (named signature : Octets) : Bool :=
  let s := Octets.toNat signature
  signature.length == k.octets && named.length + 11 ≤ k.octets && s < k.modulus &&
    Octets.ofNat k.octets (Modular.pow k.modulus s k.exponent) == pad k.octets named

end FleetIdentity.Rsa
