/-!
Arithmetic modulo a number: powers by squaring, inverses, greatest common divisors.

Numbers are natural numbers below the modulus. A power takes one squaring for each bit of the
exponent; an inverse modulo a prime is a power, any other comes from the Euclidean algorithm.
-/

-- A power `2 ^ n` of numbers is the core library's, also below an import of Mathlib's algebra.
attribute [instance (high), default_instance (high + 1)] instPowNat

namespace FleetIdentity.Modular

/-- The difference of two residues. -/
def sub (m a b : Nat) : Nat :=
  (a + (m - b % m)) % m

/-- Multiplies `acc` by `base` to the power of the low `bits` bits of `exponent`. -/
def powFrom (m : Nat) : (bits base exponent acc : Nat) → Nat
  | 0, _, _, acc => acc
  | bits + 1, base, exponent, acc =>
    powFrom m bits (base * base % m) (exponent / 2)
      (if exponent % 2 = 1 then acc * base % m else acc)

/-- The power of a residue. -/
def pow (m base exponent : Nat) : Nat :=
  powFrom m (exponent.log2 + 1) (base % m) exponent (1 % m)

/-- The inverse of a residue modulo a prime. -/
def primeInverse (p a : Nat) : Nat :=
  pow p a (p - 2)

/-- The Euclidean algorithm on `r₀ > r₁`, with the coefficients of the second number. -/
def euclid : (steps : Nat) → (r₀ r₁ : Nat) → (t₀ t₁ : Int) → Nat × Int
  | 0, r₀, _, t₀, _ => (r₀, t₀)
  | steps + 1, r₀, r₁, t₀, t₁ =>
    if r₁ = 0 then (r₀, t₀)
    else euclid steps r₁ (r₀ % r₁) t₁ (t₀ - (r₀ / r₁ : Nat) * t₁)

/-- The inverse of `a` modulo `m`, when there is one. -/
def inverse? (m a : Nat) : Option Nat :=
  match euclid (2 * m.log2 + 4) m (a % m) 0 1 with
  | (1, t) => some (t % m).toNat
  | _ => none

end FleetIdentity.Modular
