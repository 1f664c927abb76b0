import FleetIdentity.Proofs.Text.Utf8

/-!
# The order of texts is that of their octets

Texts are compared character by character, by code points; the octets of their UTF-8 forms, compared
one by one, are in the same order. A character never starts with the octets of another, and of two
characters the one with the higher code point has the higher octet where they first differ.
-/

namespace FleetIdentity.Utf8

theorem ofNat_cons_lt_iff {m n : Nat} {a b : Octets} (hm : m < 256) (hn : n < 256) :
    UInt8.ofNat m :: a < UInt8.ofNat n :: b ↔ m < n ∨ (m = n ∧ a < b) := by
  have value {k : Nat} (hk : k < 256) : (UInt8.ofNat k).toNat = k := by
    rw [UInt8.toNat_ofNat', Nat.mod_eq_of_lt hk]
  rw [List.cons_lt_cons_iff, UInt8.lt_iff_toNat_lt, ← UInt8.toNat_inj, value hm, value hn]

/-- Whatever follows, the character with the lower code point comes first. -/
theorem encodeChar_append_lt {c d : Char} (h : c < d) (a b : Octets) :
    String.utf8EncodeChar c ++ a < String.utf8EncodeChar d ++ b := by
  have lower : c.val.toNat < d.val.toNat := h
  have bound : c.val.toNat < 0x110000 := toNat_lt c
  have bound' : d.val.toNat < 0x110000 := toNat_lt d
  simp only [String.utf8EncodeChar]
  generalize c.val.toNat = m at *
  generalize d.val.toNat = n at *
  have third (k : Nat) : k / 4096 = k / 64 / 64 := by omega
  have fourth (k : Nat) : k / 262144 = k / 64 / 64 / 64 := by omega
  -- a case for each pair of forms: longer forms have higher lead octets, and in forms of one
  -- length the digits to the base 64 decide
  repeat' split
  all_goals
    simp (disch := omega) only [List.cons_append, List.nil_append, ofNat_cons_lt_iff, third,
      fourth]
    omega

theorem encode_cons (c : Char) (text : List Char) :
    encode (c :: text) = String.utf8EncodeChar c ++ encode text :=
  List.flatMap_cons

theorem encode_lt_of_lt {a b : List Char} (h : a < b) : encode a < encode b := by
  induction a generalizing b with
  | nil =>
    cases b with
    | nil => exact absurd h (List.not_lt_nil _)
    | cons d b =>
      rw [encode_cons]
      cases octets : String.utf8EncodeChar d with
      | nil => exact absurd octets String.utf8EncodeChar_ne_nil
      | cons x rest => exact List.nil_lt_cons _ _
  | cons c a ih =>
    cases b with
    | nil => exact absurd h (List.not_lt_nil _)
    | cons d b =>
      rw [encode_cons, encode_cons]
      rcases List.cons_lt_cons_iff.1 h with first | ⟨rfl, later⟩
      · exact encodeChar_append_lt first _ _
      · exact List.append_left_lt (ih later)

/-- Octets are in the order of the texts that they encode. -/
theorem encode_lt_iff {a b : List Char} : encode a < encode b ↔ a < b := by
  refine ⟨fun h => ?_, encode_lt_of_lt⟩
  rcases Std.lt_trichotomy a b with before | rfl | after
  · exact before
  · exact absurd h (List.lt_irrefl _)
  · exact absurd (encode_lt_of_lt after) (List.lt_asymm h)

theorem ofString_lt_iff {a b : String} : ofString a < ofString b ↔ a < b :=
  encode_lt_iff

theorem ofString_injective : Function.Injective ofString := by
  intro a b same
  have read : some a.toList = some b.toList := by
    rw [← decode?_encode a.toList, ← decode?_encode b.toList]
    exact congrArg decode? same
  exact String.toList_injective (Option.some.inj read)

end FleetIdentity.Utf8
