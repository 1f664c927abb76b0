/-!
Numbers in digits.
-/

namespace FleetIdentity.Number

/-- The number that digits of a base stand for, the most significant first. -/
def ofDigits (base : Nat) (digits : List Nat) : Nat :=
  digits.foldl (fun n d => base * n + d) 0

/-- The number `n * 10 ^ exponent` rounds to a finite double. -/
def isDouble (n : Nat) (exponent : Int) : Bool :=
  let magnitude := (Nat.toDigits 10 n).length + exponent
  if n = 0 ∨ magnitude < 300 then true
  else if 320 < magnitude then false
  else
    let limit := 2 ^ 1024 - 2 ^ 970
    if exponent < 0 then n < limit * 10 ^ (-exponent).toNat else n * 10 ^ exponent.toNat < limit

end FleetIdentity.Number
