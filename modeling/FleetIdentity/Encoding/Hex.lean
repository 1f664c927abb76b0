import FleetIdentity.Octets

/-!
Hexadecimal text: two digits an octet, the high half first.

Writing uses lower case; reading takes both cases and refuses an odd number of digits. Main
statement: reading what was written gives the octets back.
-/

namespace FleetIdentity.Hex

/-- The two digits of an octet. -/
def digits (x : UInt8) : List Char :=
  [Nat.digitChar (x.toNat / 16), Nat.digitChar (x.toNat % 16)]

/-- The octets in lower-case digits. -/
def encode (octets : Octets) : List Char :=
  octets.flatMap digits

/-- The value of a digit of either case. -/
def value? (c : Char) : Option Nat :=
  if '0' ≤ c ∧ c ≤ '9' then some (c.toNat - 48)
  else if 'a' ≤ c ∧ c ≤ 'f' then some (c.toNat - 87)
  else if 'A' ≤ c ∧ c ≤ 'F' then some (c.toNat - 55)
  else none

/-- The octets that pairs of digits stand for. -/
def decode? : List Char → Option Octets
  | [] => some []
  | [_] => none
  | high :: low :: rest => do
    let h ← value? high
    let l ← value? low
    let octets ← decode? rest
    return UInt8.ofNat (16 * h + l) :: octets

/-- Hexadecimal text as a string. -/
def text (octets : Octets) : String :=
  String.ofList (encode octets)

/-- Hexadecimal text with the letters in upper case. -/
def upperText (octets : Octets) : String :=
  String.ofList ((encode octets).map Char.toUpper)

theorem text_ne_empty {octets : Octets} (h : octets ≠ []) : text octets ≠ "" := by
  cases octets with
  | nil => exact absurd rfl h
  | cons x rest => simp [text, encode, digits]

private theorem value?_digitChar : ∀ n < 16, value? (Nat.digitChar n) = some n := by
  decide

theorem decode?_encode (octets : Octets) : decode? (encode octets) = some octets := by
  induction octets with
  | nil => rfl
  | cons x rest ih =>
    have hx : x.toNat < 256 := x.toNat_lt
    have high := value?_digitChar (x.toNat / 16) (by omega)
    have low := value?_digitChar (x.toNat % 16) (by omega)
    have whole : 16 * (x.toNat / 16) + x.toNat % 16 = x.toNat := by omega
    have tail : decode? (List.flatMap digits rest) = some rest := ih
    simp [encode, digits, decode?, high, low, tail, whole, -UInt8.ofNat_add, -UInt8.ofNat_mul]

end FleetIdentity.Hex
