import FleetIdentity.Text.Utf8

/-!
# Octets are read exactly when they were written

`decode?` tries one, two, three and four octets in turn, each with bounds of its own; `encode` picks
the width from the code point. Each width is matched once, as an equivalence between the octets that
are read and those that are written. A text therefore has one written form, and nothing else is
read; one by one, its characters are its symbols.
-/

namespace FleetIdentity.Utf8

theorem scalar?_eq_some_iff {least n : Nat} {c : Char} :
    scalar? least n = some c ↔ least ≤ n ∧ c.toNat = n := by
  unfold scalar?
  constructor
  · intro h
    split at h
    · next hn =>
      obtain rfl := Option.some.inj h
      refine ⟨hn.1, ?_⟩
      rw [Char.ofNat, dif_pos hn.2]
      rfl
    · cases h
  · rintro ⟨hl, rfl⟩
    have valid : c.toNat.isValidChar := c.valid
    rw [if_pos ⟨hl, valid⟩, Char.ofNat_toNat]

theorem isTail_iff {x : UInt8} : isTail x = true ↔ 0x80 ≤ x.toNat ∧ x.toNat < 0xC0 := by
  simp [isTail]

theorem two?_eq_some_iff {a b : UInt8} {ch : Char} :
    two? a b = some ch ↔ 0x80 ≤ ch.toNat ∧ ch.toNat < 0x800 ∧
      a.toNat = ch.toNat / 64 + 0xC0 ∧ b.toNat = ch.toNat % 64 + 0x80 := by
  unfold two?
  split
  · next h =>
    obtain ⟨ha, ha', hb⟩ := h
    rw [isTail_iff] at hb
    rw [scalar?_eq_some_iff]
    omega
  · next h =>
    rw [isTail_iff] at h
    simp only [reduceCtorEq, false_iff]
    omega

theorem three?_eq_some_iff {a b c : UInt8} {ch : Char} :
    three? a b c = some ch ↔ 0x800 ≤ ch.toNat ∧ ch.toNat < 0x10000 ∧
      a.toNat = ch.toNat / 4096 + 0xE0 ∧ b.toNat = ch.toNat / 64 % 64 + 0x80 ∧
      c.toNat = ch.toNat % 64 + 0x80 := by
  unfold three?
  split
  · next h =>
    obtain ⟨ha, ha', hb, hc⟩ := h
    rw [isTail_iff] at hb hc
    rw [scalar?_eq_some_iff]
    omega
  · next h =>
    rw [isTail_iff, isTail_iff] at h
    simp only [reduceCtorEq, false_iff]
    omega

theorem toNat_lt (ch : Char) : ch.toNat < 0x110000 := by
  have valid : ch.toNat.isValidChar := ch.valid
  unfold Nat.isValidChar at valid
  omega

theorem four?_eq_some_iff {a b c d : UInt8} {ch : Char} :
    four? a b c d = some ch ↔ 0x10000 ≤ ch.toNat ∧
      a.toNat = ch.toNat / 262144 + 0xF0 ∧ b.toNat = ch.toNat / 4096 % 64 + 0x80 ∧
      c.toNat = ch.toNat / 64 % 64 + 0x80 ∧ d.toNat = ch.toNat % 64 + 0x80 := by
  have bound := toNat_lt ch
  unfold four?
  split
  · next h =>
    obtain ⟨ha, ha', hb, hc, hd⟩ := h
    rw [isTail_iff] at hb hc hd
    rw [scalar?_eq_some_iff]
    omega
  · next h =>
    rw [isTail_iff, isTail_iff, isTail_iff] at h
    simp only [reduceCtorEq, false_iff]
    omega

/-! ### One character in front of octets -/

theorem decode?_one {a : UInt8} (rest : Octets) (ha : a.toNat < 0x80) :
    decode? (a :: rest) = (decode? rest).map (Char.ofNat a.toNat :: ·) := by
  rw [decode?.eq_def]
  exact if_pos ha

theorem decode?_two {a b : UInt8} {ch : Char} (rest : Octets) (h : two? a b = some ch) :
    decode? (a :: b :: rest) = (decode? rest).map (ch :: ·) := by
  have ha : ¬ a.toNat < 0x80 := by have := two?_eq_some_iff.1 h; omega
  rw [decode?.eq_def]
  simp only [if_neg ha, h]

theorem two?_of_three? {a b c : UInt8} {ch : Char} (h : three? a b c = some ch) :
    two? a b = none :=
  Option.eq_none_iff_forall_ne_some.2 fun x hx => by
    have lead := three?_eq_some_iff.1 h
    have := two?_eq_some_iff.1 hx
    omega

theorem two?_three?_of_four? {a b c d : UInt8} {ch : Char} (h : four? a b c d = some ch) :
    two? a b = none ∧ three? a b c = none := by
  have lead := four?_eq_some_iff.1 h
  constructor
  · exact Option.eq_none_iff_forall_ne_some.2 fun x hx => by
      have := two?_eq_some_iff.1 hx
      omega
  · exact Option.eq_none_iff_forall_ne_some.2 fun x hx => by
      have := three?_eq_some_iff.1 hx
      omega

theorem decode?_three {a b c : UInt8} {ch : Char} (rest : Octets) (h : three? a b c = some ch) :
    decode? (a :: b :: c :: rest) = (decode? rest).map (ch :: ·) := by
  have lead := three?_eq_some_iff.1 h
  have ha : ¬ a.toNat < 0x80 := by omega
  rw [decode?.eq_def]
  simp only [if_neg ha, two?_of_three? h, h]

theorem decode?_four {a b c d : UInt8} {ch : Char} (rest : Octets) (h : four? a b c d = some ch) :
    decode? (a :: b :: c :: d :: rest) = (decode? rest).map (ch :: ·) := by
  have lead := four?_eq_some_iff.1 h
  have ha : ¬ a.toNat < 0x80 := by omega
  obtain ⟨missed, missed'⟩ := two?_three?_of_four? h
  rw [decode?.eq_def]
  simp only [if_neg ha, missed, missed', h]

private theorem toNat_ofNat {n : Nat} (h : n < 256) : (UInt8.ofNat n).toNat = n := by
  rw [UInt8.toNat_ofNat', Nat.mod_eq_of_lt h]

/-- The octets of a character, by their number. -/
inductive Form (ch : Char) : Octets → Prop where
  | one {a : UInt8} : a.toNat < 0x80 → Char.ofNat a.toNat = ch → Form ch [a]
  | two {a b : UInt8} : two? a b = some ch → Form ch [a, b]
  | three {a b c : UInt8} : three? a b c = some ch → Form ch [a, b, c]
  | four {a b c d : UInt8} : four? a b c d = some ch → Form ch [a, b, c, d]

theorem form_encodeChar (ch : Char) : Form ch (String.utf8EncodeChar ch) := by
  have bound := toNat_lt ch
  have code : ch.val.toNat = ch.toNat := rfl
  simp only [String.utf8EncodeChar, code]
  split
  · have ha : (UInt8.ofNat ch.toNat).toNat = ch.toNat := toNat_ofNat (by omega)
    exact .one (by omega) (by rw [ha, Char.ofNat_toNat])
  split
  · refine .two (two?_eq_some_iff.2 ⟨by omega, by omega, ?_, ?_⟩)
    · rw [toNat_ofNat (by omega)]; omega
    · exact toNat_ofNat (by omega)
  split
  · refine .three (three?_eq_some_iff.2 ⟨by omega, by omega, ?_, ?_, ?_⟩)
    · rw [toNat_ofNat (by omega)]; omega
    · exact toNat_ofNat (by omega)
    · exact toNat_ofNat (by omega)
  · refine .four (four?_eq_some_iff.2 ⟨by omega, ?_, ?_, ?_, ?_⟩)
    · rw [toNat_ofNat (by omega)]; omega
    · exact toNat_ofNat (by omega)
    · exact toNat_ofNat (by omega)
    · exact toNat_ofNat (by omega)

/-- A written character in front of octets is read as that character. -/
theorem decode?_encodeChar_append (ch : Char) (rest : Octets) :
    decode? (String.utf8EncodeChar ch ++ rest) = (decode? rest).map (ch :: ·) := by
  have form := form_encodeChar ch
  generalize String.utf8EncodeChar ch = octets at form ⊢
  cases form with
  | one small same => exact same ▸ decode?_one rest small
  | two h => exact decode?_two rest h
  | three h => exact decode?_three rest h
  | four h => exact decode?_four rest h

theorem decode?_encode (text : List Char) : decode? (encode text) = some text := by
  induction text with
  | nil => rfl
  | cons c text ih =>
    rw [encode, List.flatMap_cons, decode?_encodeChar_append, ← encode, ih, Option.map_some]

/-- A written text in front of octets is read as that text. -/
theorem decode?_encode_append (text : List Char) (rest : Octets) :
    decode? (encode text ++ rest) = (decode? rest).map (text ++ ·) := by
  induction text with
  | nil => simp [encode]
  | cons c text ih =>
    rw [encode, List.flatMap_cons, List.append_assoc, decode?_encodeChar_append, ← encode, ih,
      Option.map_map]
    rfl

/-! ### Symbols -/

/-- A written character in front of octets is the first symbol. -/
theorem symbols_encodeChar_append (ch : Char) (rest : Octets) :
    symbols (String.utf8EncodeChar ch ++ rest) = some ch :: symbols rest := by
  have form := form_encodeChar ch
  generalize String.utf8EncodeChar ch = octets at form ⊢
  rw [symbols]
  cases form with
  | @one a small same =>
    have front : front? (a :: rest) = some (ch, 0) := by
      rw [front?.eq_def, ← same]
      exact if_pos small
    rw [List.cons_append, List.nil_append, symbolsAfter, front]
    rfl
  | @two a b h =>
    have ha : ¬ a.toNat < 0x80 := by have := two?_eq_some_iff.1 h; omega
    have front : front? (a :: b :: rest) = some (ch, 1) := by
      rcases rest with _ | ⟨c, _ | ⟨d, rest⟩⟩ <;> simp [front?, if_neg ha, h]
    rw [List.cons_append, List.cons_append, List.nil_append, symbolsAfter, front]
    rfl
  | @three a b c h =>
    have ha : ¬ a.toNat < 0x80 := by have := three?_eq_some_iff.1 h; omega
    have front : front? (a :: b :: c :: rest) = some (ch, 2) := by
      cases rest <;> simp [front?, if_neg ha, two?_of_three? h, h]
    rw [List.cons_append, List.cons_append, List.cons_append, List.nil_append, symbolsAfter, front]
    rfl
  | @four a b c d h =>
    have ha : ¬ a.toNat < 0x80 := by have := four?_eq_some_iff.1 h; omega
    obtain ⟨missed, missed'⟩ := two?_three?_of_four? h
    have front : front? (a :: b :: c :: d :: rest) = some (ch, 3) := by
      simp [front?, if_neg ha, missed, missed', h]
    rw [List.cons_append, List.cons_append, List.cons_append, List.cons_append, List.nil_append,
      symbolsAfter, front]
    rfl

theorem symbols_encode (text : List Char) : symbols (encode text) = text.map some := by
  induction text with
  | nil => rfl
  | cons c text ih =>
    rw [encode, List.flatMap_cons, symbols_encodeChar_append, ← encode, ih, List.map_cons]

theorem length_le_encode (text : List Char) : text.length ≤ (encode text).length := by
  induction text with
  | nil => exact Nat.le_refl 0
  | cons c text ih =>
    have positive := Char.utf8Size_pos c
    rw [encode, List.flatMap_cons, ← encode, List.length_append, String.length_utf8EncodeChar,
      List.length_cons]
    omega

private theorem ofNat_eq_of_toNat {n : Nat} {x : UInt8} (h : x.toNat = n) : UInt8.ofNat n = x := by
  rw [← h, UInt8.ofNat_toNat]

theorem encodeChar_one {a : UInt8} (h : a.toNat < 0x80) :
    String.utf8EncodeChar (Char.ofNat a.toNat) = [a] := by
  have valid : a.toNat.isValidChar := Or.inl (by omega)
  have code : (Char.ofNat a.toNat).val.toNat = a.toNat := by
    rw [Char.ofNat, dif_pos valid]
    rfl
  simp only [String.utf8EncodeChar, code]
  rw [if_pos (by omega), UInt8.ofNat_toNat]

theorem encodeChar_two {a b : UInt8} {ch : Char} (h : two? a b = some ch) :
    String.utf8EncodeChar ch = [a, b] := by
  obtain ⟨low, high, ha, hb⟩ := two?_eq_some_iff.1 h
  have code : ch.val.toNat = ch.toNat := rfl
  simp only [String.utf8EncodeChar, code]
  rw [if_neg (by omega), if_pos (by omega), ofNat_eq_of_toNat (x := a) (by omega),
    ofNat_eq_of_toNat hb]

theorem encodeChar_three {a b c : UInt8} {ch : Char} (h : three? a b c = some ch) :
    String.utf8EncodeChar ch = [a, b, c] := by
  obtain ⟨low, high, ha, hb, hc⟩ := three?_eq_some_iff.1 h
  have code : ch.val.toNat = ch.toNat := rfl
  simp only [String.utf8EncodeChar, code]
  rw [if_neg (by omega), if_neg (by omega), if_pos (by omega),
    ofNat_eq_of_toNat (x := a) (by omega), ofNat_eq_of_toNat hb, ofNat_eq_of_toNat hc]

theorem encodeChar_four {a b c d : UInt8} {ch : Char} (h : four? a b c d = some ch) :
    String.utf8EncodeChar ch = [a, b, c, d] := by
  obtain ⟨low, ha, hb, hc, hd⟩ := four?_eq_some_iff.1 h
  have bound := toNat_lt ch
  have code : ch.val.toNat = ch.toNat := rfl
  simp only [String.utf8EncodeChar, code]
  rw [if_neg (by omega), if_neg (by omega), if_neg (by omega),
    ofNat_eq_of_toNat (x := a) (by omega), ofNat_eq_of_toNat hb, ofNat_eq_of_toNat hc,
    ofNat_eq_of_toNat hd]

private theorem encode_cons_of {ch : Char} {front rest : Octets} {text : List Char}
    (front_eq : String.utf8EncodeChar ch = front)
    (ih : ∀ {t : List Char}, decode? rest = some t → rest = encode t)
    (h : (decode? rest).map (ch :: ·) = some text) : front ++ rest = encode text := by
  obtain ⟨tail, found, rfl⟩ := Option.map_eq_some_iff.1 h
  rw [encode, List.flatMap_cons, front_eq, ← encode, ← ih found]

/-- What is read was written: the characters give the octets back. -/
theorem encode_of_decode? {octets : Octets} {text : List Char} (h : decode? octets = some text) :
    octets = encode text := by
  fun_induction decode? octets generalizing text with
  | case1 => obtain rfl := Option.some.inj h; rfl
  | case2 a rest ha ih => exact encode_cons_of (encodeChar_one ha) ih h
  | case3 => cases h
  | case4 a ha b rest ch found ih => exact encode_cons_of (encodeChar_two found) ih h
  | case5 => cases h
  | case6 a ha b missed c rest ch found ih => exact encode_cons_of (encodeChar_three found) ih h
  | case7 => cases h
  | case8 a ha b missed c missed' d rest ch found ih =>
    exact encode_cons_of (encodeChar_four found) ih h
  | case9 => cases h

/-- Octets are read as a text exactly when they are its written form. -/
theorem decode?_eq_some_iff {octets : Octets} {text : List Char} :
    decode? octets = some text ↔ octets = encode text :=
  ⟨encode_of_decode?, fun h => h ▸ decode?_encode text⟩

end FleetIdentity.Utf8
