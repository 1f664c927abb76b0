import FleetIdentity.Pki.KeyFile
import FleetIdentity.Proofs.Asn1.StrictElements
import FleetIdentity.Proofs.Pki.PemBlocks

/-!
# Written private keys are read back

A key with the numbers that its kind must have is read from the block that it is written to. The
reader wants the public half that comes with a key on a curve to be the one of the key, which holds
because it is written with it.
-/

namespace FleetIdentity

open Asn1

namespace PrivateKey

/-- The numbers of the key are in the limits of its kind. -/
def IsUsable : PrivateKey → Prop
  | .ed25519 seed => seed.length = 32
  | .curve name secret => Ecdsa.isScalar name.curve secret = true
  | .rsa key => KeyFile.maySign key = true

/-! ### Sizes -/

/-- The numbers that an RSA private key is written as. -/
def rsaNumbers (k : Rsa.PrivateKey) : List Nat :=
  [k.modulus, k.publicExponent, k.privateExponent, k.prime₁, k.prime₂, k.exponent₁, k.exponent₂,
    k.coefficient]

theorem rsaPrivate_eq (k : Rsa.PrivateKey) :
    rsaPrivate k = Asn1.sequence ((0 :: rsaNumbers k).map writeInteger) := rfl

theorem bitLength_mono {m n : Nat} (le : m ≤ n) : Rsa.bitLength m ≤ Rsa.bitLength n := by
  unfold Rsa.bitLength
  by_cases zero : m = 0
  · rw [if_pos zero]
    exact Nat.zero_le _
  · have below : m.log2 < n.log2 + 1 :=
      (Nat.log2_lt zero).2 (Nat.lt_of_le_of_lt le Nat.lt_log2_self)
    rw [if_neg zero, if_neg (by omega)]
    omega

/-- The numbers of an RSA key that may sign have 4096 bits at most. -/
theorem bitLength_rsaNumbers {k : Rsa.PrivateKey} (may : KeyFile.maySign k = true) :
    ∀ n ∈ rsaNumbers k, Rsa.bitLength n ≤ 4096 := by
  simp only [KeyFile.maySign, Bool.and_eq_true, decide_eq_true_eq, beq_iff_eq] at may
  obtain ⟨⟨⟨⟨⟨⟨⟨⟨⟨⟨⟨⟨⟨⟨⟨⟨⟨-, bits⟩, -⟩, -⟩, exponent⟩, -⟩, half₁⟩, half₂⟩, -⟩, -⟩, secret⟩, -⟩,
    first⟩, -⟩, second⟩, -⟩, coefficient⟩, -⟩ := may
  have prime₁ : Rsa.bitLength k.prime₁ ≤ 4096 := by omega
  have prime₂ : Rsa.bitLength k.prime₂ ≤ 4096 := by omega
  have verifying : Rsa.bitLength k.publicExponent ≤ 4096 :=
    Nat.le_trans (bitLength_mono (Nat.le_of_lt exponent)) (by decide)
  simp only [rsaNumbers, List.forall_mem_cons, List.not_mem_nil, false_implies, implies_true,
    and_true]
  exact ⟨bits, verifying, Nat.le_trans (bitLength_mono (Nat.le_of_lt secret)) bits, prime₁, prime₂,
    Nat.le_trans (bitLength_mono (Nat.le_of_lt first)) prime₁,
    Nat.le_trans (bitLength_mono (Nat.le_of_lt second)) prime₂,
    Nat.le_trans (bitLength_mono (Nat.le_of_lt coefficient)) prime₁⟩

theorem length_unsigned_of_bits {n : Nat} (few : Rsa.bitLength n ≤ 4096) :
    (unsigned n).length ≤ 513 := by
  have width_le : Octets.width n ≤ 512 := by
    unfold Octets.width
    unfold Rsa.bitLength at few
    split at few
    · next zero =>
      rw [zero]
      decide
    · omega
  exact Nat.le_trans (length_unsigned_le n) (Nat.succ_le_succ width_le)

theorem length_integers_le {numbers : List Nat} (few : ∀ n ∈ numbers, Rsa.bitLength n ≤ 4096) :
    (numbers.map writeInteger).flatten.length ≤ 517 * numbers.length := by
  induction numbers with
  | nil => exact Nat.le_refl 0
  | cons n numbers ih =>
    have others := ih fun m hm => few m (List.mem_cons_of_mem _ hm)
    have content := length_unsigned_of_bits (few n List.mem_cons_self)
    have first : (writeInteger n).length ≤ (unsigned n).length + 4 :=
      length_write_le _ (Nat.lt_of_le_of_lt content (by decide))
    rw [List.map_cons, List.flatten_cons, List.length_append, List.length_cons]
    omega

theorem length_kind_le (k : PrivateKey) : k.kind.length ≤ 19 := by
  cases k with
  | ed25519 seed => exact of_decide_eq_true rfl
  | curve name secret => cases name <;> exact of_decide_eq_true rfl
  | rsa key => exact of_decide_eq_true rfl

/-- The octets of a public half that is written with its key are few. -/
def HalfFits (half : Octets) : Prop :=
  half.length ≤ 2048

theorem HalfFits.length_bits_le {half : Octets} (fits : HalfFits half) :
    (writeBits half).length ≤ 2053 := by
  unfold HalfFits at fits
  have written := length_write_le Tag.bitString.octet
    (show (0 :: half : Octets).length < 2 ^ 16 by rw [List.length_cons]; omega)
  rw [List.length_cons] at written
  exact Nat.le_trans written (by omega)

/-- The elements that a key on a curve is written as. -/
def curveParts (half : Octets) (name : NamedCurve) (secret : Nat) : List Octets :=
  [writeInteger 1, writeTag .octetString (Octets.ofNat name.curve.octets secret),
    Asn1.write 0xA1 (writeBits half)]

theorem length_curveParts_le {half : Octets} (fits : HalfFits half) (name : NamedCurve)
    (secret : Nat) : (curveParts half name secret).flatten.length ≤ 2112 := by
  have few : (Octets.ofNat name.curve.octets secret).length ≤ 48 := by
    rw [Octets.length_ofNat]
    cases name <;> decide
  have secret_le := length_write_le Tag.octetString.octet (Nat.lt_of_le_of_lt few (by decide))
  have bits_le := fits.length_bits_le
  have half_le := length_write_le 0xA1 (Nat.lt_of_le_of_lt bits_le (by decide))
  have one : (writeInteger 1).length = 3 := by decide
  simp only [curveParts, List.flatten_cons, List.flatten_nil, List.append_nil, List.length_append,
    writeTag, one]
  omega

theorem length_rsaParts_le {k : Rsa.PrivateKey} (may : KeyFile.maySign k = true) :
    ((0 :: rsaNumbers k).map writeInteger).flatten.length ≤ 4653 := by
  have few : ∀ n ∈ 0 :: rsaNumbers k, Rsa.bitLength n ≤ 4096 :=
    List.forall_mem_cons.2 ⟨by decide, bitLength_rsaNumbers may⟩
  exact length_integers_le few

theorem length_body_le {k : PrivateKey} (usable : k.IsUsable) {half : Octets}
    (fits : HalfFits half) : (k.body half).length ≤ 4657 := by
  cases k with
  | ed25519 seed =>
    have few : seed.length = 32 := usable
    have written := length_write_le Tag.octetString.octet (show seed.length < 2 ^ 16 by omega)
    exact Nat.le_trans written (by omega)
  | curve name secret =>
    have few := length_curveParts_le fits name secret
    have written := length_write_le Tag.sequence.octet (Nat.lt_of_le_of_lt few (by decide))
    exact Nat.le_trans written (by omega)
  | rsa key =>
    have few := length_rsaParts_le usable
    have written := length_write_le Tag.sequence.octet (Nat.lt_of_le_of_lt few (by decide))
    exact Nat.le_trans written (by omega)

end PrivateKey

namespace KeyFile

variable {suite : SignatureSuite} {k : PrivateKey} {half : Octets}

/-- The parts of a key that is written. -/
theorem unwrap?_write (usable : k.IsUsable) (fits : PrivateKey.HalfFits half) :
    unwrap? (k.write half) = some ⟨0, k.kind, k.body half, none⟩ := by
  have kind_le := k.length_kind_le
  have body_le := PrivateKey.length_body_le usable fits
  have kind_written := length_write_le Tag.sequence.octet (show k.kind.length < 2 ^ 16 by omega)
  have body_written :=
    length_write_le Tag.octetString.octet (show (k.body half).length < 2 ^ 16 by omega)
  have zero : (writeInteger 0).length = 3 := by decide
  have content : ([writeInteger 0, writeTag .sequence k.kind,
      writeTag .octetString (k.body half)].flatten).length < 2 ^ 16 := by
    simp only [List.flatten_cons, List.flatten_nil, List.append_nil, List.length_append, writeTag,
      zero]
    omega
  rw [unwrap?, PrivateKey.write, Asn1.sequence, Strict.whole?_writeTag .sequence content]
  simp only [List.flatten_cons, List.flatten_nil, List.append_nil, Option.bind_eq_bind,
    Option.bind_some, Strict.tagged?, writeTag, Strict.reads_unsigned? (n := 0) (by decide) _,
    Strict.reads_write _ (show k.kind.length < 2 ^ 16 by omega) _]
  rw [(Strict.reads_write Tag.octetString.octet
    (show (k.body half).length < 2 ^ 16 by omega)).alone]
  rfl

theorem ed25519?_write {seed : Octets} (length : seed.length = 32) :
    ed25519? suite ⟨0, PrivateKey.kind (.ed25519 seed), PrivateKey.body half (.ed25519 seed),
      none⟩ = some (.ed25519 seed) := by
  have content := Strict.whole?_writeTag .octetString (show seed.length < 2 ^ 16 by omega)
  rw [ed25519?, PrivateKey.body, content]
  simp only [Option.bind_eq_bind, Option.bind_some]
  rw [if_neg (not_not_intro length)]

theorem reads_publicHalf? (fits : PrivateKey.HalfFits half) :
    Reads publicHalf? (Asn1.write 0xA1 (writeBits half)) half := by
  have small := fits.length_bits_le
  have content := length_lt_write Tag.bitString.octet (0 :: half)
  intro rest
  have bits := (Strict.reads_bitString?
    (Nat.lt_trans content (Nat.lt_of_le_of_lt small (by decide)))).alone
  rw [publicHalf?, Strict.reads_write 0xA1 (Nat.lt_of_le_of_lt small (by decide))]
  simp only [Option.bind_eq_bind, Option.bind_some, bits]

theorem onCurve?_write {name : NamedCurve} {secret : Nat}
    (scalar : Ecdsa.isScalar name.curve secret = true)
    (half_eq : half = suite.publicKey (.curve name secret)) (fits : PrivateKey.HalfFits half) :
    onCurve? suite name ⟨0, PrivateKey.kind (.curve name secret),
      PrivateKey.body half (.curve name secret), none⟩ = some (.curve name secret) := by
  have length := Octets.length_ofNat name.curve.octets secret
  have octets_lt : (Octets.ofNat name.curve.octets secret).length < 2 ^ 16 := by
    rw [length]
    cases name <;> decide
  have order_le : name.curve.order ≤ 256 ^ name.curve.octets := by
    cases name <;> decide
  have value : Octets.toNat (Octets.ofNat name.curve.octets secret) = secret := by
    rw [Octets.toNat_ofNat, Nat.mod_eq_of_lt]
    simp only [Ecdsa.isScalar, Bool.and_eq_true, decide_eq_true_eq] at scalar
    omega
  have content := Strict.whole?_writeTag .sequence
    (Nat.lt_of_le_of_lt (PrivateKey.length_curveParts_le fits name secret) (by decide))
  have public_half := (reads_publicHalf? fits).alone
  have body_eq : PrivateKey.body half (.curve name secret) =
      writeTag .sequence (PrivateKey.curveParts half name secret).flatten := rfl
  have no_curve : skipCurve? name (Asn1.write 0xA1 (writeBits half)) =
      some (Asn1.write 0xA1 (writeBits half)) := rfl
  simp only [onCurve?, body_eq, content, Option.bind_eq_bind, Option.bind_some]
  simp only [PrivateKey.curveParts, List.flatten_cons, List.flatten_nil, List.append_nil,
    Option.bind_some, Strict.tagged?, Strict.reads_unsigned? (n := 1) (by decide) _, writeTag,
    Strict.reads_write _ octets_lt _, no_curve, public_half, value]
  -- What the reader asks of a key on a curve holds of this one, its public half included.
  rw [if_neg (not_not_intro rfl), if_pos ⟨trivial, length, scalar, half_eq⟩]

theorem rsa?_write {key : Rsa.PrivateKey} (may : maySign key = true) :
    rsa? ⟨0, PrivateKey.kind (.rsa key), PrivateKey.body half (.rsa key), none⟩ =
      some (.rsa key) := by
  have content : Strict.whole? .sequence (PrivateKey.body half (.rsa key)) =
      some ((0 :: PrivateKey.rsaNumbers key).map writeInteger).flatten := by
    rw [PrivateKey.body, PrivateKey.rsaPrivate_eq]
    exact Strict.whole?_writeTag .sequence
      (Nat.lt_of_le_of_lt (PrivateKey.length_rsaParts_le may) (by decide))
  simp only [PrivateKey.rsaNumbers, List.map_cons, List.map_nil, List.flatten_cons,
    List.flatten_nil, List.append_nil] at content
  have number : ∀ n ∈ 0 :: PrivateKey.rsaNumbers key,
      Reads Strict.unsigned? (writeInteger n) n := by
    intro n mem
    have few : Rsa.bitLength n ≤ 4096 := by
      rcases List.mem_cons.1 mem with rfl | mem
      · decide
      · exact PrivateKey.bitLength_rsaNumbers may n mem
    have length_le := PrivateKey.length_unsigned_of_bits few
    exact Strict.reads_unsigned? (Nat.lt_of_le_of_lt length_le (by decide))
  simp only [PrivateKey.rsaNumbers, List.forall_mem_cons, List.not_mem_nil, false_implies,
    implies_true, and_true] at number
  obtain ⟨version, modulus, publicExponent, privateExponent, prime₁, prime₂, exponent₁, exponent₂,
    coefficient⟩ := number
  have numbers : rsaKey? (PrivateKey.body half (.rsa key)) = some key := by
    rw [rsaKey?]
    refine (bind_of_eq_some content).trans ?_
    refine (bind_of_eq_some (version _)).trans ?_
    refine (bind_of_eq_some (modulus _)).trans ?_
    refine (bind_of_eq_some (publicExponent _)).trans ?_
    refine (bind_of_eq_some (privateExponent _)).trans ?_
    refine (bind_of_eq_some (prime₁ _)).trans ?_
    refine (bind_of_eq_some (prime₂ _)).trans ?_
    refine (bind_of_eq_some (exponent₁ _)).trans ?_
    refine (bind_of_eq_some (exponent₂ _)).trans ?_
    exact (bind_of_eq_some coefficient.alone).trans rfl
  rw [rsa?, numbers]
  simp only [Option.bind_eq_bind, Option.bind_some, may]
  rfl

/-- The kinds of key are named differently; what is named does not depend on the numbers. -/
theorem curveKind_ne (name : NamedCurve) (secret : Nat) :
    PrivateKey.kind (.curve name secret) ≠ PrivateKey.kind (.ed25519 []) := by
  show PrivateKey.kind (.curve name 0) ≠ PrivateKey.kind (.ed25519 [])
  cases name <;> decide

theorem p384Kind_ne (secret : Nat) :
    PrivateKey.kind (.curve .p384 secret) ≠ PrivateKey.kind (.curve .p256 0) :=
  show PrivateKey.kind (.curve .p384 0) ≠ PrivateKey.kind (.curve .p256 0) by decide

theorem rsaKind_ne (name : NamedCurve) (key : Rsa.PrivateKey) :
    PrivateKey.kind (.rsa key) ≠ PrivateKey.kind (.ed25519 []) ∧
    PrivateKey.kind (.rsa key) ≠ PrivateKey.kind (.curve name 0) := by
  have rsa_eq : PrivateKey.kind (.rsa key) =
    writeTag .oid Oid.rsaEncryption ++ writeTag .null [] := rfl
  rw [rsa_eq]
  cases name <;> decide

/-- A key is read from what is written of it. -/
theorem wrapped?_write (usable : k.IsUsable) (fits : PrivateKey.HalfFits (suite.publicKey k)) :
    wrapped? suite (k.write (suite.publicKey k)) = some k := by
  rw [wrapped?, unwrap?_write usable fits]
  simp only [Option.bind_eq_bind, Option.bind_some]
  cases k with
  | ed25519 seed =>
    exact (if_pos rfl).trans (ed25519?_write usable)
  | curve name secret =>
    cases name with
    | p256 =>
      rw [if_neg (curveKind_ne .p256 secret)]
      exact (if_pos rfl).trans (onCurve?_write usable rfl fits)
    | p384 =>
      rw [if_neg (curveKind_ne .p384 secret), if_neg (p384Kind_ne secret)]
      exact (if_pos rfl).trans (onCurve?_write usable rfl fits)
  | rsa key =>
    rw [if_neg (rsaKind_ne .p256 key).1, if_neg (rsaKind_ne .p256 key).2,
      if_neg (rsaKind_ne .p384 key).2]
    exact (if_pos rfl).trans (rsa?_write usable)

end KeyFile

namespace PrivateKey

/-- A key is read from the block that it is written to. -/
theorem ofPem_encodeKey {suite : SignatureSuite} {k : PrivateKey} (usable : k.IsUsable)
    (fits : HalfFits (suite.publicKey k)) :
    ofPem suite (Pem.encodeKey (k.write (suite.publicKey k))) = .ok k := by
  rw [ofPem, Pem.parse?_encodeKey]
  simp only [if_true, KeyFile.wrapped?_write usable fits]

end PrivateKey

end FleetIdentity
