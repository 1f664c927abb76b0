import FleetIdentity.Crypto.Modular
import FleetIdentity.Crypto.Rsa

/-!
Probable primes, and RSA keys of them.

A number is taken for a prime when it passes the Miller–Rabin test to the first prime bases. A key
is made from two random numbers: from each of them on the next prime that fits the public
exponent.
-/

namespace FleetIdentity.Prime

/-- Small primes, as divisors and as bases of the test. -/
def small : List Nat :=
  [2, 3, 5, 7, 11, 13, 17, 19, 23, 29, 31, 37, 41, 43, 47, 53, 59, 61, 67, 71]

/-- The power of two in a number and the odd rest. -/
def splitTwos : (fuel : Nat) → Nat → Nat × Nat
  | 0, n => (0, n)
  | fuel + 1, n =>
    if n % 2 = 0 ∧ n ≠ 0 then
      let (twos, odd) := splitTwos fuel (n / 2)
      (twos + 1, odd)
    else (0, n)

/-- Squaring `x` up to `times` times reaches minus one. -/
def reachesMinusOne (n : Nat) : (times : Nat) → (x : Nat) → Bool
  | 0, _ => false
  | times + 1, x => x == n - 1 || reachesMinusOne n times (x * x % n)

/-- The number passes the test to a base. -/
def passes (n base : Nat) : Bool :=
  let (twos, odd) := splitTwos (n.log2 + 1) (n - 1)
  let x := Modular.pow n base odd
  x == 1 || reachesMinusOne n twos x

/-- The number is probably a prime. -/
def isProbable (n : Nat) : Bool :=
  if small.contains n then true
  else n > 71 && small.all fun p => n % p != 0 && passes n p

/-- The first probable prime from an odd number on that is not one more than a multiple of `e`. -/
def next? (e : Nat) : (fuel : Nat) → Nat → Option Nat
  | 0, _ => none
  | fuel + 1, n => if n % e != 1 && isProbable n then some n else next? e fuel (n + 2)

end FleetIdentity.Prime

namespace FleetIdentity.Rsa

/-- The public exponent of generated keys. -/
def commonExponent : Nat := 65537

/-- An odd number of so many bits, the first two of them set, from a random number. -/
def candidate (bits random : Nat) : Nat :=
  random % 2 ^ (bits - 2) / 2 * 2 + 1 + 3 * 2 ^ (bits - 2)

/-- A key with a modulus of so many bits from two random numbers. -/
def generate? (bits random₁ random₂ : Nat) : Option PrivateKey := do
  let e := commonExponent
  let half := bits / 2
  let p ← Prime.next? e (8 * bits) (candidate half random₁)
  let q ← Prime.next? e (8 * bits) (candidate half random₂)
  let d ← Modular.inverse? ((p - 1) * (q - 1)) e
  let coefficient ← Modular.inverse? p q
  if p = q then none
  return { modulus := p * q, publicExponent := e, privateExponent := d, prime₁ := p, prime₂ := q,
           exponent₁ := d % (p - 1), exponent₂ := d % (q - 1), coefficient }

end FleetIdentity.Rsa
