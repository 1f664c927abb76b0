import FleetIdentity.Encoding.Base64
import FleetIdentity.Text.Blank

/-!
# Base64 has one written form

Reading is strict enough that the symbols which stand for octets are the ones that writing gives.
No symbol is white space, so a written signature survives the removal of white space.
-/

namespace FleetIdentity.Base64

theorem le_iff_toNat {c d : Char} : c ≤ d ↔ c.toNat ≤ d.toNat :=
  UInt32.le_iff_toNat_le

theorem eq_ofNat {n : Nat} {c : Char} (h : n = c.toNat) : Char.ofNat n = c := by
  rw [h, Char.ofNat_toNat]

theorem symbol_of_value? {c : Char} {n : Nat} (h : value? c = some n) : n < 64 ∧ symbol n = c := by
  have upper : 'A'.toNat = 65 ∧ 'Z'.toNat = 90 := ⟨rfl, rfl⟩
  have lower : 'a'.toNat = 97 ∧ 'z'.toNat = 122 := ⟨rfl, rfl⟩
  have digit : '0'.toNat = 48 ∧ '9'.toNat = 57 := ⟨rfl, rfl⟩
  simp only [value?, le_iff_toNat] at h
  split at h
  · obtain rfl := Option.some.inj h
    refine ⟨by omega, ?_⟩
    rw [symbol, if_pos (by omega)]
    exact eq_ofNat (by omega)
  split at h
  · obtain rfl := Option.some.inj h
    refine ⟨by omega, ?_⟩
    rw [symbol, if_neg (by omega), if_pos (by omega)]
    exact eq_ofNat (by omega)
  split at h
  · obtain rfl := Option.some.inj h
    refine ⟨by omega, ?_⟩
    rw [symbol, if_neg (by omega), if_neg (by omega), if_pos (by omega)]
    exact eq_ofNat (by omega)
  split at h
  · next plus => obtain rfl := Option.some.inj h; exact ⟨by decide, plus.symm⟩
  split at h
  · next slash => obtain rfl := Option.some.inj h; exact ⟨by decide, slash.symm⟩
  · cases h

theorem encode_of_oneOctet? {a b : Char} {octets : Octets} (h : oneOctet? a b = some octets) :
    encode octets = [a, b, '=', '='] := by
  simp only [oneOctet?, Option.bind_eq_bind, Option.bind_eq_some_iff] at h
  obtain ⟨p, hp, q, hq, h⟩ := h
  split at h
  · next zero =>
    obtain rfl := Option.some.inj h
    obtain ⟨p_lt, rfl⟩ := symbol_of_value? hp
    obtain ⟨q_lt, rfl⟩ := symbol_of_value? hq
    have x : (UInt8.ofNat (p * 4 + q / 16)).toNat = p * 4 + q / 16 := by
      rw [UInt8.toNat_ofNat']; omega
    rw [encode, x, show (p * 4 + q / 16) / 4 = p by omega,
      show (p * 4 + q / 16) % 4 * 16 = q by omega]
  · cases h

theorem encode_of_twoOctets? {a b c : Char} {octets : Octets}
    (h : twoOctets? a b c = some octets) : encode octets = [a, b, c, '='] := by
  simp only [twoOctets?, Option.bind_eq_bind, Option.bind_eq_some_iff] at h
  obtain ⟨p, hp, q, hq, r, hr, h⟩ := h
  split at h
  · next zero =>
    obtain rfl := Option.some.inj h
    obtain ⟨p_lt, rfl⟩ := symbol_of_value? hp
    obtain ⟨q_lt, rfl⟩ := symbol_of_value? hq
    obtain ⟨r_lt, rfl⟩ := symbol_of_value? hr
    have x : (UInt8.ofNat (p * 4 + q / 16)).toNat = p * 4 + q / 16 := by
      rw [UInt8.toNat_ofNat']; omega
    have y : (UInt8.ofNat (q % 16 * 16 + r / 4)).toNat = q % 16 * 16 + r / 4 := by
      rw [UInt8.toNat_ofNat']; omega
    rw [encode, x, y, show (p * 4 + q / 16) / 4 = p by omega,
      show (p * 4 + q / 16) % 4 * 16 + (q % 16 * 16 + r / 4) / 16 = q by omega,
      show (q % 16 * 16 + r / 4) % 16 * 4 = r by omega]
  · cases h

/-- What is read was written: the octets give the symbols back. -/
theorem encode_of_decode? {symbols : List Char} {octets : Octets}
    (h : decode? symbols = some octets) : symbols = encode octets := by
  fun_induction decode? symbols generalizing octets with
  | case1 => obtain rfl := Option.some.inj h; rfl
  | case2 a b c d rest last =>
    obtain ⟨rfl, rfl, rfl⟩ := last
    exact (encode_of_oneOctet? h).symm
  | case3 a b c d rest _ last =>
    obtain ⟨rfl, rfl⟩ := last
    exact (encode_of_twoOctets? h).symm
  | case4 a b c d rest _ _ ih =>
    simp only [Option.bind_eq_bind, Option.bind_eq_some_iff, Option.pure_def] at h
    obtain ⟨p, hp, q, hq, r, hr, s, hs, more, hm, h⟩ := h
    obtain rfl := Option.some.inj h
    obtain ⟨p_lt, rfl⟩ := symbol_of_value? hp
    obtain ⟨q_lt, rfl⟩ := symbol_of_value? hq
    obtain ⟨r_lt, rfl⟩ := symbol_of_value? hr
    obtain ⟨s_lt, rfl⟩ := symbol_of_value? hs
    have x : (UInt8.ofNat (p * 4 + q / 16)).toNat = p * 4 + q / 16 := by
      rw [UInt8.toNat_ofNat']; omega
    have y : (UInt8.ofNat (q % 16 * 16 + r / 4)).toNat = q % 16 * 16 + r / 4 := by
      rw [UInt8.toNat_ofNat']; omega
    have z : (UInt8.ofNat (r % 4 * 64 + s)).toNat = r % 4 * 64 + s := by
      rw [UInt8.toNat_ofNat']; omega
    rw [encode, x, y, z, ih hm, show (p * 4 + q / 16) / 4 = p by omega,
      show (p * 4 + q / 16) % 4 * 16 + (q % 16 * 16 + r / 4) / 16 = q by omega,
      show (q % 16 * 16 + r / 4) % 16 * 4 + (r % 4 * 64 + s) / 64 = r by omega,
      show (r % 4 * 64 + s) % 64 = s by omega]
  | case5 => cases h

/-- What is written are symbols and the filling. -/
theorem mem_encode {octets : Octets} {c : Char} (h : c ∈ encode octets) :
    c = '=' ∨ ∃ n < 64, c = symbol n := by
  fun_induction encode octets with
  | case1 => cases h
  | case2 a =>
    have ha : a.toNat < 256 := a.toNat_lt
    simp only [List.mem_cons, List.not_mem_nil, or_false] at h
    rcases h with rfl | rfl | rfl | rfl
    · exact .inr ⟨_, by omega, rfl⟩
    · exact .inr ⟨_, by omega, rfl⟩
    · exact .inl rfl
    · exact .inl rfl
  | case3 a b =>
    have ha : a.toNat < 256 := a.toNat_lt
    have hb : b.toNat < 256 := b.toNat_lt
    simp only [List.mem_cons, List.not_mem_nil, or_false] at h
    rcases h with rfl | rfl | rfl | rfl
    · exact .inr ⟨_, by omega, rfl⟩
    · exact .inr ⟨_, by omega, rfl⟩
    · exact .inr ⟨_, by omega, rfl⟩
    · exact .inl rfl
  | case4 a b c rest ih =>
    have ha : a.toNat < 256 := a.toNat_lt
    have hb : b.toNat < 256 := b.toNat_lt
    have hc : c.toNat < 256 := c.toNat_lt
    simp only [List.mem_cons] at h
    rcases h with rfl | rfl | rfl | rfl | h
    · exact .inr ⟨_, by omega, rfl⟩
    · exact .inr ⟨_, by omega, rfl⟩
    · exact .inr ⟨_, by omega, rfl⟩
    · exact .inr ⟨_, by omega, rfl⟩
    · exact ih h

theorem isBlankChar_symbol : ∀ n < 64, isBlankChar (symbol n) = false := by
  decide

theorem isBlankChar_of_mem_encode {octets : Octets} {c : Char} (h : c ∈ encode octets) :
    isBlankChar c = false := by
  rcases mem_encode h with rfl | ⟨n, small, rfl⟩
  · decide
  · exact isBlankChar_symbol n small

/-- What is written is ASCII without dashes. -/
theorem ascii_of_mem_encode {octets : Octets} {c : Char} (h : c ∈ encode octets) :
    c.toNat < 128 ∧ c ≠ '-' := by
  have symbols : ∀ n < 64, (symbol n).toNat < 128 ∧ symbol n ≠ '-' := by decide
  rcases mem_encode h with rfl | ⟨n, small, rfl⟩
  · decide
  · exact symbols n small

theorem length_le_encode (octets : Octets) : octets.length ≤ (encode octets).length := by
  fun_induction encode octets with
  | case1 => exact Nat.le_refl _
  | case2 | case3 =>
    simp only [List.length_cons]
    omega
  | case4 a b c rest ih =>
    simp only [List.length_cons]
    omega

theorem length_encode_le (octets : Octets) : (encode octets).length ≤ 4 * octets.length := by
  fun_induction encode octets with
  | case1 => exact Nat.le_refl _
  | case2 | case3 =>
    simp only [List.length_cons, List.length_nil]
    omega
  | case4 a b c rest ih =>
    simp only [List.length_cons]
    omega

theorem encode_ne_nil {octets : Octets} (h : octets ≠ []) : encode octets ≠ [] := by
  fun_cases encode octets with
  | case1 => exact absurd rfl h
  | case2 | case3 | case4 => exact List.cons_ne_nil _ _

end FleetIdentity.Base64
