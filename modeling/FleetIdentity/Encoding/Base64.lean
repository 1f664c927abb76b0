import FleetIdentity.Octets

/-!
Base64 with the standard alphabet, padding and canonical form.

Three octets are four symbols; a last group of one or two octets is filled up with `=`. Reading is
strict: the padding is required, nothing follows it, and the bits that it leaves over are zero.
-/

namespace FleetIdentity.Base64

/-- The symbol of a six-bit value. -/
def symbol (n : Nat) : Char :=
  if n < 26 then Char.ofNat (65 + n)
  else if n < 52 then Char.ofNat (71 + n)
  else if n < 62 then Char.ofNat (n - 4)
  else if n = 62 then '+'
  else '/'

/-- The six-bit value of a symbol. -/
def value? (c : Char) : Option Nat :=
  if 'A' ≤ c ∧ c ≤ 'Z' then some (c.toNat - 65)
  else if 'a' ≤ c ∧ c ≤ 'z' then some (c.toNat - 71)
  else if '0' ≤ c ∧ c ≤ '9' then some (c.toNat + 4)
  else if c = '+' then some 62
  else if c = '/' then some 63
  else none

/-- The symbols of an octet string. -/
def encode : Octets → List Char
  | [] => []
  | [a] => [symbol (a.toNat / 4), symbol (a.toNat % 4 * 16), '=', '=']
  | [a, b] =>
    [symbol (a.toNat / 4), symbol (a.toNat % 4 * 16 + b.toNat / 16), symbol (b.toNat % 16 * 4), '=']
  | a :: b :: c :: rest =>
    symbol (a.toNat / 4) :: symbol (a.toNat % 4 * 16 + b.toNat / 16) ::
      symbol (b.toNat % 16 * 4 + c.toNat / 64) :: symbol (c.toNat % 64) :: encode rest

/-- The octet of the padded group `ab==`. -/
def oneOctet? (a b : Char) : Option Octets := do
  let p ← value? a
  let q ← value? b
  if q % 16 = 0 then some [UInt8.ofNat (p * 4 + q / 16)] else none

/-- The octets of the padded group `abc=`. -/
def twoOctets? (a b c : Char) : Option Octets := do
  let p ← value? a
  let q ← value? b
  let r ← value? c
  if r % 4 = 0 then
    some [UInt8.ofNat (p * 4 + q / 16), UInt8.ofNat (q % 16 * 16 + r / 4)]
  else none

/-- The octets that symbols stand for. -/
def decode? : List Char → Option Octets
  | [] => some []
  | a :: b :: c :: d :: rest =>
    if c = '=' ∧ d = '=' ∧ rest = [] then oneOctet? a b
    else if d = '=' ∧ rest = [] then twoOctets? a b c
    else do
      let p ← value? a
      let q ← value? b
      let r ← value? c
      let s ← value? d
      let octets ← decode? rest
      return UInt8.ofNat (p * 4 + q / 16) :: UInt8.ofNat (q % 16 * 16 + r / 4) ::
        UInt8.ofNat (r % 4 * 64 + s) :: octets
  | _ => none

private theorem value?_symbol : ∀ n < 64, value? (symbol n) = some n ∧ symbol n ≠ '=' := by
  decide

private theorem ofNat_eq {n : Nat} {x : UInt8} (h : n = x.toNat) : UInt8.ofNat n = x := by
  rw [h, UInt8.ofNat_toNat]

theorem decode?_encode (octets : Octets) : decode? (encode octets) = some octets := by
  fun_induction encode octets with
  | case1 => rfl
  | case2 a =>
    have ha : a.toNat < 256 := a.toNat_lt
    have h1 := value?_symbol (a.toNat / 4) (by omega)
    have h2 := value?_symbol (a.toNat % 4 * 16) (by omega)
    simp [decode?, oneOctet?, h1, h2, -UInt8.ofNat_add, -UInt8.ofNat_mul]
    exact ofNat_eq (by omega)
  | case3 a b =>
    have ha : a.toNat < 256 := a.toNat_lt
    have hb : b.toNat < 256 := b.toNat_lt
    have h1 := value?_symbol (a.toNat / 4) (by omega)
    have h2 := value?_symbol (a.toNat % 4 * 16 + b.toNat / 16) (by omega)
    have h3 := value?_symbol (b.toNat % 16 * 4) (by omega)
    simp [decode?, twoOctets?, h1, h2, h3, -UInt8.ofNat_add, -UInt8.ofNat_mul]
    exact ⟨ofNat_eq (by omega), ofNat_eq (by omega)⟩
  | case4 a b c rest ih =>
    have ha : a.toNat < 256 := a.toNat_lt
    have hb : b.toNat < 256 := b.toNat_lt
    have hc : c.toNat < 256 := c.toNat_lt
    have h1 := value?_symbol (a.toNat / 4) (by omega)
    have h2 := value?_symbol (a.toNat % 4 * 16 + b.toNat / 16) (by omega)
    have h3 := value?_symbol (b.toNat % 16 * 4 + c.toNat / 64) (by omega)
    have h4 := value?_symbol (c.toNat % 64) (by omega)
    simp [decode?, h1, h2, h3, h4, ih, -UInt8.ofNat_add, -UInt8.ofNat_mul]
    exact ⟨ofNat_eq (by omega), ofNat_eq (by omega), ofNat_eq (by omega)⟩

end FleetIdentity.Base64
