import FleetIdentity.Crypto.Weierstrass
import FleetIdentity.Crypto.Sha2

/-!
ECDSA signatures over a curve, as the pair of numbers `(r, s)`.

The digest of the message comes from outside; its leading bits are the number that is signed. The
nonce is derived from the key and the digest, so that signing needs no randomness.
-/

namespace FleetIdentity.Ecdsa

open Weierstrass (Curve)

/-- The number that a digest stands for. -/
def digestNumber (c : Curve) (digest : Octets) : Nat :=
  Octets.toNat (digest.take c.octets) % c.order

/-- A secret scalar of the curve. -/
def isScalar (c : Curve) (n : Nat) : Bool :=
  0 < n && n < c.order

/-- A secret scalar of the curve from a random number. -/
def scalarOf (c : Curve) (random : Nat) : Nat :=
  random % (c.order - 1) + 1

/-- The public key of a secret scalar. -/
def publicKey (c : Curve) (secret : Nat) : Octets :=
  c.encode (c.mul secret c.base)

/-- A nonce for a key and a digest, from one and more by a hash. -/
def nonce (c : Curve) (secret : Nat) (digest : Octets) : Nat :=
  let seed := Octets.ofNat c.octets secret ++ digest
  Octets.toNat (Sha2.sha512.digest seed) % (c.order - 1) + 1

/-- The signature of a digest. -/
def sign (c : Curve) (secret : Nat) (digest : Octets) : Nat × Nat :=
  let k := nonce c secret digest
  let r := (c.coordinates (c.mul k c.base)).1 % c.order
  let s := Modular.primeInverse c.order k * (digestNumber c digest + r * secret) % c.order
  (r, s)

/-- The signature of a digest verifies under a public key. -/
def verify (c : Curve) (key : Octets) (digest : Octets) (signature : Nat × Nat) : Bool :=
  match c.decode? key with
  | none => false
  | some point =>
    let (r, s) := signature
    if isScalar c r && isScalar c s then
      let w := Modular.primeInverse c.order s
      let sum := c.add (c.mul (digestNumber c digest * w % c.order) c.base)
        (c.mul (r * w % c.order) point)
      sum.z != 0 && (c.coordinates sum).1 % c.order == r
    else false

end FleetIdentity.Ecdsa
