/-!
Octet strings and their reading as numbers.

An octet string is a list; the two readings as a number differ only in which end is the most
significant. Writing a number takes the number of octets to write and drops what does not fit.
-/

namespace FleetIdentity

/-- A string of octets. -/
abbrev Octets := List UInt8

namespace Octets

/-- The number whose base-256 digits are the octets, the most significant first. -/
def toNat (octets : Octets) : Nat :=
  octets.foldl (fun n x => n * 256 + x.toNat) 0

/-- The number whose base-256 digits are the octets, the least significant first. -/
def toNatLE : Octets → Nat
  | [] => 0
  | x :: rest => x.toNat + 256 * toNatLE rest

/-- The `length` lowest base-256 digits of a number, the least significant first. -/
def ofNatLE : (length : Nat) → (n : Nat) → Octets
  | 0, _ => []
  | length + 1, n => UInt8.ofNat (n % 256) :: ofNatLE length (n / 256)

/-- The `length` lowest base-256 digits of a number, the most significant first. -/
def ofNat (length n : Nat) : Octets :=
  (ofNatLE length n).reverse

/-- The number of octets that a number needs, at least one. -/
def width (n : Nat) : Nat :=
  n.log2 / 8 + 1

@[simp] theorem length_ofNatLE (length n : Nat) : (ofNatLE length n).length = length := by
  induction length generalizing n with
  | zero => rfl
  | succ length ih => simp [ofNatLE, ih]

@[simp] theorem length_ofNat (length n : Nat) : (ofNat length n).length = length := by
  simp [ofNat]

/-- Reading back what was written gives the number when it fits. -/
theorem toNatLE_ofNatLE (length n : Nat) : toNatLE (ofNatLE length n) = n % 256 ^ length := by
  induction length generalizing n with
  | zero => simp [ofNatLE, toNatLE, Nat.mod_one]
  | succ length ih =>
    have h : (UInt8.ofNat (n % 256)).toNat = n % 256 := by
      simp
    rw [ofNatLE, toNatLE, ih, h, Nat.pow_succ, Nat.mul_comm (256 ^ length) 256, Nat.mod_mul]

end Octets

end FleetIdentity
