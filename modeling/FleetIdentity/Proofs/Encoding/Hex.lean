import FleetIdentity.Encoding.Hex

/-!
# What is read as hexadecimal text

Two digits of either case for each octet are read, and nothing else is. Different octets are written
differently, in either case.
-/

namespace FleetIdentity.Hex

/-- A decimal digit, or a letter from a to f of either case. -/
def IsDigit (c : Char) : Prop :=
  ('0' ≤ c ∧ c ≤ '9') ∨ ('a' ≤ c ∧ c ≤ 'f') ∨ ('A' ≤ c ∧ c ≤ 'F')

instance (c : Char) : Decidable (IsDigit c) :=
  inferInstanceAs (Decidable (_ ∨ _ ∨ _))

theorem exists_value?_iff {c : Char} : (∃ n, value? c = some n) ↔ IsDigit c := by
  unfold value? IsDigit
  split
  · next decimal => simp [decimal]
  · next decimal =>
    split
    · next lower => simp [lower]
    · next lower =>
      split
      · next upper => simp [upper]
      · next upper => simp [decimal, lower, upper]

theorem decode?_pair_eq_some_iff {high low : Char} {rest : List Char} {octets : Octets} :
    decode? (high :: low :: rest) = some octets ↔ ∃ h l later, value? high = some h ∧
      value? low = some l ∧ decode? rest = some later ∧
      octets = UInt8.ofNat (16 * h + l) :: later := by
  rw [decode?]
  simp only [bind, Option.bind_eq_some_iff, pure, Option.some.injEq]
  constructor
  · rintro ⟨h, high_eq, l, low_eq, later, rest_eq, rfl⟩
    exact ⟨h, l, later, high_eq, low_eq, rest_eq, rfl⟩
  · rintro ⟨h, l, later, high_eq, low_eq, rest_eq, rfl⟩
    exact ⟨h, high_eq, l, low_eq, later, rest_eq, rfl⟩

theorem length_of_decode? {digits : List Char} {octets : Octets}
    (read : decode? digits = some octets) : digits.length = 2 * octets.length := by
  fun_induction decode? digits generalizing octets with
  | case1 =>
    cases read
    rfl
  | case2 => cases read
  | case3 high low rest ih =>
    obtain ⟨h, l, later, _, _, rest_eq, rfl⟩ := decode?_pair_eq_some_iff.1 read
    have shorter := ih rest_eq
    simp only [List.length_cons]
    omega

theorem exists_decode?_iff {digits : List Char} :
    (∃ octets, decode? digits = some octets) ↔
      digits.length % 2 = 0 ∧ ∀ c ∈ digits, IsDigit c := by
  fun_induction decode? digits with
  | case1 => simp
  | case2 c => simp
  | case3 high low rest ih =>
    have even : (high :: low :: rest).length % 2 = 0 ↔ rest.length % 2 = 0 := by
      simp only [List.length_cons]
      omega
    rw [even, List.forall_mem_cons, List.forall_mem_cons, ← exists_value?_iff,
      ← exists_value?_iff]
    constructor
    · rintro ⟨octets, read⟩
      obtain ⟨h, l, later, high_eq, low_eq, rest_eq, _⟩ := decode?_pair_eq_some_iff.1 read
      obtain ⟨rest_even, rest_digits⟩ := ih.1 ⟨later, rest_eq⟩
      exact ⟨rest_even, ⟨h, high_eq⟩, ⟨l, low_eq⟩, rest_digits⟩
    · rintro ⟨rest_even, ⟨h, high_eq⟩, ⟨l, low_eq⟩, rest_digits⟩
      obtain ⟨later, rest_eq⟩ := ih.2 ⟨rest_even, rest_digits⟩
      exact ⟨_, decode?_pair_eq_some_iff.2 ⟨h, l, later, high_eq, low_eq, rest_eq, rfl⟩⟩

theorem text_injective : Function.Injective text := by
  intro a b same
  have encoded : encode a = encode b := String.ofList_injective same
  have read : some a = some b := by rw [← decode?_encode a, ← decode?_encode b, encoded]
  exact Option.some.inj read

theorem decode?_map_toUpper_encode (octets : Octets) :
    decode? ((encode octets).map Char.toUpper) = some octets := by
  have upper : ∀ n < 16, value? (Nat.digitChar n).toUpper = some n := by decide
  induction octets with
  | nil => rfl
  | cons x rest ih =>
    have bound := x.toNat_lt
    have whole : 16 * (x.toNat / 16) + x.toNat % 16 = x.toNat := by omega
    refine decode?_pair_eq_some_iff.2 ⟨x.toNat / 16, x.toNat % 16, rest,
      upper _ (by omega), upper _ (by omega), ih, ?_⟩
    rw [whole, UInt8.ofNat_toNat]

theorem upperText_injective : Function.Injective upperText := by
  intro a b same
  have digits := String.ofList_injective same
  have read : some a = some b := by
    rw [← decode?_map_toUpper_encode a, digits, decode?_map_toUpper_encode b]
  exact Option.some.inj read

end FleetIdentity.Hex
