import FleetIdentity.Asn1.Strict
import FleetIdentity.Proofs.Asn1.Elements

/-!
# Written elements in strict form

What is written has the shortest lengths and integers without needless zero octet, so the strict
reader takes it too, as long as a content has less than `2 ^ 16` octets.
-/

namespace FleetIdentity

namespace Octets

theorem toNat_cons (x : UInt8) (octets : Octets) :
    toNat (x :: octets) = x.toNat * 256 ^ octets.length + toNat octets := by
  suffices shifted : ∀ n, octets.foldl (fun n x => n * 256 + x.toNat) n =
      n * 256 ^ octets.length + toNat octets by
    rw [toNat, List.foldl_cons, shifted, Nat.zero_mul, Nat.zero_add]
  induction octets with
  | nil => intro n; simp [toNat]
  | cons y octets ih =>
    intro n
    have tail : toNat (y :: octets) = y.toNat * 256 ^ octets.length + toNat octets := by
      rw [toNat, List.foldl_cons, ih, Nat.zero_mul, Nat.zero_add]
    rw [List.foldl_cons, ih, tail, List.length_cons, Nat.pow_succ]
    grind

theorem toNat_lt_pow (octets : Octets) : toNat octets < 256 ^ octets.length := by
  induction octets with
  | nil => exact Nat.one_pos
  | cons x octets ih =>
    have digit : x.toNat < 256 := x.toNat_lt
    have steps : (x.toNat + 1) * 256 ^ octets.length ≤ 256 * 256 ^ octets.length :=
      Nat.mul_le_mul_right _ digit
    rw [toNat_cons, List.length_cons, Nat.pow_succ]
    rw [Nat.add_mul, Nat.one_mul] at steps
    omega

/-- The first of several octets of a number is not zero. -/
theorem pow_width_le {n : Nat} (nonzero : n ≠ 0) : 256 ^ (width n - 1) ≤ n := by
  have least : 2 ^ n.log2 ≤ n := Nat.log2_self_le nonzero
  have steps : 2 ^ (8 * (width n - 1)) ≤ 2 ^ n.log2 :=
    Nat.pow_le_pow_right (by decide) (by unfold width; omega)
  have octets : 256 ^ (width n - 1) = 2 ^ (8 * (width n - 1)) := by
    rw [Nat.pow_mul]
  omega

end Octets

namespace Asn1

/-! ### Sizes -/

theorem length_writeLength_le {n : Nat} (small : n < 2 ^ 16) : (writeLength n).length ≤ 3 := by
  unfold writeLength
  split
  · exact Nat.succ_le_succ (Nat.zero_le 2)
  · have width_le : Octets.width n ≤ 2 := Octets.width_le (by decide) small
    rw [List.length_cons, Octets.length_ofNat]
    omega

theorem length_write_le (x : UInt8) {content : Octets} (small : content.length < 2 ^ 16) :
    (write x content).length ≤ content.length + 4 := by
  have length := length_writeLength_le small
  rw [write, List.length_append, List.length_cons]
  omega

theorem length_unsigned_le (n : Nat) : (unsigned n).length ≤ Octets.width n + 1 := by
  simp only [unsigned]
  split
  · exact Nat.le_of_eq (by rw [List.length_cons, Octets.length_ofNat])
  · rw [Octets.length_ofNat]
    exact Nat.le_succ _

namespace Strict

/-! ### Lengths and elements -/

theorem length?_short {x : UInt8} (short : x.toNat < 128) (rest : Octets) :
    length? (x :: rest) = some (x.toNat, rest) := by
  simp [length?, short]

theorem reads_writeLength {n : Nat} (small : n < 2 ^ 16) :
    Reads length? (writeLength n) n := by
  intro rest
  have width_le : Octets.width n ≤ 2 := Octets.width_le (by decide) small
  have width_pos := Octets.width_pos n
  unfold writeLength
  split
  · next short =>
    have octet : (UInt8.ofNat n).toNat = n := by
      rw [UInt8.toNat_ofNat']
      omega
    rw [List.singleton_append, length?_short (octet.symm ▸ short), octet]
  · next long =>
    rcases Nat.lt_or_ge n 256 with one | two
    · have width : Octets.width n = 1 := by
        have := Octets.width_le (show 0 < 1 by decide) (show n < 256 ^ 1 from one)
        omega
      have octet : (UInt8.ofNat (n % 256)).toNat = n := by
        rw [UInt8.toNat_ofNat']
        omega
      rw [width]
      show (if 128 ≤ (UInt8.ofNat (n % 256)).toNat then
        some ((UInt8.ofNat (n % 256)).toNat, rest) else none) = some (n, rest)
      rw [octet, if_pos (by omega)]
    · have width : Octets.width n = 2 := by
        have below := Octets.lt_pow_width n
        rcases Nat.lt_or_ge (Octets.width n) 2 with less | enough
        · have one : Octets.width n = 1 := by omega
          rw [one] at below
          omega
        · omega
      have low : (UInt8.ofNat (n % 256)).toNat = n % 256 := by
        rw [UInt8.toNat_ofNat']
        omega
      have high : (UInt8.ofNat (n / 256 % 256)).toNat = n / 256 := by
        rw [UInt8.toNat_ofNat']
        omega
      have whole : n / 256 * 256 + n % 256 = n := by omega
      rw [width]
      show (if 256 ≤ (UInt8.ofNat (n / 256 % 256)).toNat * 256 + (UInt8.ofNat (n % 256)).toNat then
        some ((UInt8.ofNat (n / 256 % 256)).toNat * 256 + (UInt8.ofNat (n % 256)).toNat, rest)
        else none) = some (n, rest)
      rw [low, high, whole, if_pos two]

theorem reads_write (x : UInt8) {content : Octets} (small : content.length < 2 ^ 16) :
    Reads (expect? x) (write x content) content := by
  intro rest
  have length := reads_writeLength small (content ++ rest)
  rw [write, List.cons_append, List.cons_append, List.append_assoc, expect?]
  have enough : content.length ≤ (content ++ rest).length := by
    rw [List.length_append]
    omega
  simp only [Option.bind_eq_bind, Option.bind_some, length, true_and]
  rw [if_pos enough, List.take_left, List.drop_left]

theorem whole?_writeTag (tag : Tag) {content : Octets} (small : content.length < 2 ^ 16) :
    whole? tag (writeTag tag content) = some content := by
  rw [whole?, tagged?, writeTag, (reads_write tag.octet small).alone]
  rfl

/-! ### Integers and bit strings -/

theorem ofUnsigned?_unsigned (n : Nat) : ofUnsigned? (unsigned n) = some n := by
  have value := Octets.toNat_ofNat_width n
  have count : (Octets.ofNat (Octets.width n) n).length = Octets.width n := Octets.length_ofNat _ _
  have least := @Octets.pow_width_le n
  simp only [unsigned]
  generalize Octets.ofNat (Octets.width n) n = octets at value count
  cases octets with
  | nil =>
    have pos := Octets.width_pos n
    rw [← count] at pos
    exact absurd pos (Nat.lt_irrefl 0)
  | cons x octets =>
    -- A first octet from 128 on has a zero in front. A smaller one stands alone or is not zero.
    split
    · next high =>
      rw [ofUnsigned?, if_pos ⟨by decide, fun _ => high⟩, Octets.toNat_cons, value]
      simp
    · next low =>
      rw [List.headD_cons] at low
      cases octets with
      | nil =>
        have same : x.toNat = n := by
          rw [← value, Octets.toNat_cons]
          simp [Octets.toNat]
        rw [ofUnsigned?, if_pos (by omega), same]
      | cons y octets =>
        have first : x ≠ 0 := by
          rintro rfl
          have below := Octets.toNat_lt_pow (y :: octets)
          rw [Octets.toNat_cons] at value
          simp only [UInt8.toNat_zero, Nat.zero_mul, Nat.zero_add] at value
          have positions : Octets.width n - 1 = (y :: octets).length := by
            rw [← count, List.length_cons, Nat.add_sub_cancel]
          rw [value, ← positions] at below
          have nonzero : n ≠ 0 := by
            rintro rfl
            rw [show Octets.width 0 = 1 from rfl] at count
            simp at count
          have := least nonzero
          omega
        rw [ofUnsigned?, if_pos ⟨by omega, fun zero => absurd zero first⟩, value]

theorem reads_unsigned? {n : Nat} (small : (unsigned n).length < 2 ^ 16) :
    Reads unsigned? (writeInteger n) n := by
  intro rest
  rw [unsigned?, tagged?, writeInteger, writeTag, reads_write _ small]
  simp only [Option.bind_eq_bind, Option.bind_some, ofUnsigned?_unsigned]
  rfl

theorem reads_bitString? {bits : Octets} (small : (0 :: bits : Octets).length < 2 ^ 16) :
    Reads (bitString? Tag.bitString.octet) (writeBits bits) bits := by
  intro rest
  rw [bitString?, writeBits, writeTag, reads_write _ small]
  rfl

end Strict

end Asn1

end FleetIdentity
