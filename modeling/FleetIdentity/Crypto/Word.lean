import FleetIdentity.Octets

/-!
Words of a fixed number of bits, held as natural numbers below the power of two.

The hash functions are sums, rotations and bitwise operations on such words.
-/

namespace FleetIdentity.Word

/-- Rotation to the right. -/
def rotateRight (bits x n : Nat) : Nat :=
  (x >>> n) ||| ((x <<< (bits - n)) % 2 ^ bits)

/-- Rotation to the left. -/
def rotateLeft (bits x n : Nat) : Nat :=
  rotateRight bits x (bits - n)

/-- The complement. -/
def complement (bits x : Nat) : Nat :=
  2 ^ bits - 1 - x

/-- The octets in groups of `length`, the last group possibly shorter. -/
def groups (length : Nat) : (count : Nat) → Octets → List Octets
  | 0, _ => []
  | count + 1, octets =>
    if octets.isEmpty then [] else octets.take length :: groups length count (octets.drop length)

/-- The octets in blocks of `length`. -/
def blocks (length : Nat) (octets : Octets) : List Octets :=
  groups length octets.length octets

/-- The message, the octet 128, zeros up to a whole number of blocks, and the length in bits in the
last `lengthOctets` octets. -/
def padded (blockOctets lengthOctets : Nat) (message : Octets) : Octets :=
  let used := message.length + 1 + lengthOctets
  let zeros := (blockOctets - used % blockOctets) % blockOctets
  message ++ 0x80 :: List.replicate zeros 0 ++ Octets.ofNat lengthOctets (8 * message.length)

end FleetIdentity.Word
