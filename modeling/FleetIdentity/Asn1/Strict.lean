import FleetIdentity.Asn1.Element

/-!
Elements of ASN.1 as private keys must have them: one octet of identifier, the shortest length, no
more than two octets of it, nothing left over.
-/

namespace FleetIdentity.Asn1.Strict

/-- The length at the front, in the fewest octets. -/
def length? : Octets → Option (Nat × Octets)
  | x :: rest =>
    if x.toNat < 128 then some (x.toNat, rest)
    else match x.toNat, rest with
      | 0x81, a :: rest => if 128 ≤ a.toNat then some (a.toNat, rest) else none
      | 0x82, a :: b :: rest =>
        let n := a.toNat * 256 + b.toNat
        if 256 ≤ n then some (n, rest) else none
      | _, _ => none
  | [] => none

/-- The content of the element at the front, when it has the identifier octet. -/
def expect? (identifier : UInt8) : Octets → Option (Octets × Octets)
  | x :: rest => do
    let (length, rest) ← length? rest
    if x = identifier ∧ length ≤ rest.length then some (rest.take length, rest.drop length)
    else none
  | [] => none

/-- The content of the universal element at the front. -/
def tagged? (tag : Tag) (octets : Octets) : Option (Octets × Octets) :=
  expect? tag.octet octets

/-- The content of a universal element that is all there is. -/
def whole? (tag : Tag) (octets : Octets) : Option Octets := do
  match ← tagged? tag octets with
  | (content, []) => some content
  | _ => none

/-- The non-negative integer in a content without needless zero octet. -/
def ofUnsigned? : Octets → Option Nat
  | [] => none
  | [x] => if x.toNat < 128 then some x.toNat else none
  | x :: y :: rest =>
    if x.toNat < 128 ∧ (x = 0 → 128 ≤ y.toNat) then some (Octets.toNat (x :: y :: rest)) else none

/-- The non-negative integer at the front. -/
def unsigned? (octets : Octets) : Option (Nat × Octets) := do
  let (content, rest) ← tagged? .integer octets
  return (← ofUnsigned? content, rest)

/-- The positive integer at the front. -/
def positive? (octets : Octets) : Option (Nat × Octets) := do
  let (n, rest) ← unsigned? octets
  if 0 < n then some (n, rest) else none

/-- The bit string of whole octets at the front. -/
def bitString? (identifier : UInt8) (octets : Octets) : Option (Octets × Octets) := do
  match ← expect? identifier octets with
  | (0 :: bits, rest) => some (bits, rest)
  | _ => none

end FleetIdentity.Asn1.Strict
