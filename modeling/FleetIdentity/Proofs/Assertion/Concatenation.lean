import FleetIdentity.Proofs.Assertion.Resigning
import Mathlib.Data.List.DropRight

/-!
# Streams behind one another

An accepted stream may be followed by a blank line and any other stream: what is decoded is the
assertions of the first and then those of the second, and what is wrong with the second is wrong
with the whole. Neither stream has to be one that a signer writes.

White space at the end of the first stream must be newlines. A stream that ends in another blank
character is accepted too, but in front of a second stream that character may start a block.
-/

namespace FleetIdentity.Decoder

/-- The white space at the end of the stream, if there is any, is newlines. -/
def EndsInNewlines (stream : Octets) : Prop :=
  ∀ text, Utf8.decode? stream = some text → ∀ c ∈ text.rtakeWhile isBlankChar, c = '\n'

/-- The octets of a blank line. -/
def blankLine : Octets :=
  [0x0A, 0x0A]

variable {d : Decoder}

/-- What a signer writes ends in one newline, with no white space in front of it. -/
theorem endsInNewlines_text {t : SignedText} {octets : Octets} (len : octets.length = 64)
    (signature_eq : t.signature = Base64.encode octets) :
    EndsInNewlines (Utf8.encode t.text) := by
  intro text read c hc
  rw [Utf8.decode?_encode] at read
  cases read
  have octets_ne : octets ≠ [] := by
    rintro rfl
    cases len
  have signature_ne : t.signature ≠ [] := signature_eq ▸ Base64.encode_ne_nil octets_ne
  obtain ⟨front, last, split⟩ := (List.eq_nil_or_concat' t.signature).resolve_left signature_ne
  have mem : last ∈ Base64.encode octets := by
    rw [← signature_eq, split]
    simp
  have symbol : isBlankChar last = false := Base64.isBlankChar_of_mem_encode mem
  have text_eq : t.text = (t.block ++ '\n' :: '\n' :: front ++ [last]) ++ ['\n'] := by
    rw [SignedText.text, split]
    simp
  rw [text_eq, List.rtakeWhile_concat_pos _ _ _ (by decide),
    List.rtakeWhile_concat_neg _ _ _ (by simp [symbol])] at hc
  simpa using hc

/-! ### The signature in front of a blank line -/

/-- A blank line and more text behind a signature section change neither the signature nor the text
that is read next, unless that text was empty. -/
theorem splitSignature_append (after rest : List Char) :
    (splitSignature (after ++ '\n' :: '\n' :: rest)).1.filter (fun c => !isBlankChar c) =
        (splitSignature after).1.filter (fun c => !isBlankChar c) ∧
      Lines.dropNewlines (splitSignature (after ++ '\n' :: '\n' :: rest)).2 =
        Lines.dropNewlines
          (Lines.dropNewlines (splitSignature after).2 ++ '\n' :: '\n' :: rest) := by
  rw [Lines.dropNewlines_append_dropNewlines, splitSignature, splitSignature]
  cases cut : Lines.splitBlank? after with
  | some parts =>
    obtain ⟨signature, next⟩ := parts
    rw [Lines.splitBlank?_append cut]
    exact ⟨rfl, rfl⟩
  | none =>
    -- A signature that ends with the text may end in one newline, which joins the blank line.
    rcases Lines.splitBlank?_append_blank cut rest with found | ⟨front, rfl, found⟩
    · rw [found]
      exact ⟨rfl, rfl⟩
    · rw [found]
      refine ⟨?_, rfl⟩
      show front.filter _ = (front ++ ['\n']).filter _
      rw [List.filter_append]
      exact (List.append_nil _).symm

/-! ### One round of the reader after another -/

theorem rtakeWhile_subset_append (p : Char → Bool) (front text : List Char) :
    text.rtakeWhile p ⊆ (front ++ text).rtakeWhile p := by
  intro c hc
  rw [List.rtakeWhile, List.mem_reverse] at hc ⊢
  rw [List.reverse_append, List.takeWhile_append]
  split
  · exact List.mem_append_left _ ((List.takeWhile_sublist _).mem hc)
  · exact hc

theorem decodeText_append {text : List Char} {assertions : List Assertion}
    (start : text.head? ≠ some '\n') (ends : ∀ c ∈ text.rtakeWhile isBlankChar, c = '\n')
    (h : d.decodeText text = .ok assertions) (rest : List Char) :
    d.decodeText (Lines.dropNewlines (text ++ '\n' :: '\n' :: rest)) =
      (d.decodeText (Lines.dropNewlines rest)).map (assertions ++ ·) := by
  -- The induction is on the rounds of the reader over the first text; the second text is only
  -- reached when the first is empty.
  fun_induction decodeText d text generalizing assertions with
  | case1 text blank =>
    have empty : text = [] := by
      rw [List.rtakeWhile_eq_self_iff.2 (List.all_eq_true.1 blank)] at ends
      cases text with
      | nil => rfl
      | cons c text => exact absurd (congrArg some (ends c List.mem_cons_self)) start
    cases h
    rw [empty]
    show d.decodeText (Lines.dropNewlines rest) = _
    cases d.decodeText (Lines.dropNewlines rest) <;> rfl
  | case2 => cases h
  | case3 text not_blank block after cut ih =>
    obtain ⟨a, verified, h⟩ := bind_eq_ok_iff.1 h
    obtain ⟨later, decoded, h⟩ := bind_eq_ok_iff.1 h
    cases h
    obtain ⟨gap, _, _, text_eq⟩ := eq_append_of_cut cut
    have next := ih (Lines.head?_dropNewlines _)
      (fun c hc => ends c (text_eq ▸ rtakeWhile_subset_append _ _ _ hc)) decoded
    obtain ⟨symbols, behind⟩ := splitSignature_append after rest
    have start' : (text ++ '\n' :: '\n' :: rest).head? ≠ some '\n' := by
      cases text with
      | nil => exact absurd rfl not_blank
      | cons c text => exact start
    have not_blank' : ¬ (text ++ '\n' :: '\n' :: rest).all isBlankChar = true := by
      rw [List.all_append, Bool.and_eq_true]
      exact fun both => not_blank both.1
    rw [Lines.dropNewlines_of_head? start',
      decodeText_of_cut not_blank' (Lines.splitBlank?_append cut _),
      verify_of_symbols block symbols, verified, behind, next]
    cases d.decodeText (Lines.dropNewlines rest) <;> rfl

theorem encode_blankLine (text : List Char) (second : Octets) :
    Utf8.encode text ++ blankLine ++ second = Utf8.encode (text ++ ['\n', '\n']) ++ second := by
  rw [Utf8.encode, Utf8.encode, List.flatMap_append]
  rfl

theorem decode_eq_ok {stream : Octets} {assertions : List Assertion}
    (h : d.decode stream = .ok assertions) :
    ∃ text, stream = Utf8.encode text ∧
      d.decodeText (Lines.dropNewlines text) = .ok assertions := by
  unfold decode at h
  split at h
  · cases h
  · next text read => exact ⟨text, Utf8.encode_of_decode? read, h⟩

theorem decodePair_succeeds_iff {stream : Octets} :
    (∃ pair, d.decodePair stream = .ok pair) ↔
      ∃ assertions, d.decode stream = .ok assertions ∧ assertions.length = 2 := by
  constructor
  · rintro ⟨⟨a, b⟩, h⟩
    exact ⟨[a, b], decodePair_eq_ok_iff.1 h, rfl⟩
  · rintro ⟨assertions, decoded, length⟩
    obtain ⟨a, b, rfl⟩ := List.length_eq_two.1 length
    exact ⟨(a, b), decodePair_eq_ok_iff.2 decoded⟩

/-- A blank line and a second stream behind an accepted stream that does not end in another blank
character: the second stream is decoded as it is alone, and fails as it does alone. The whole is a
pair exactly if the two have two assertions together. -/
theorem decode_concatenated {first : Octets} {decoded : List Assertion}
    (h : d.decode first = .ok decoded) (ends : EndsInNewlines first) (second : Octets) :
    d.decode (first ++ blankLine ++ second) = (d.decode second).map (decoded ++ ·) ∧
      ((∃ pair, d.decodePair (first ++ blankLine ++ second) = .ok pair) ↔
        ∃ more, d.decode second = .ok more ∧ decoded.length + more.length = 2) := by
  have whole : d.decode (first ++ blankLine ++ second) =
      (d.decode second).map (decoded ++ ·) := by
    obtain ⟨text, rfl, read⟩ := decode_eq_ok h
    obtain ⟨newlines, _, text_eq⟩ := Lines.eq_append_dropNewlines text
    have ends' : ∀ c ∈ (Lines.dropNewlines text).rtakeWhile isBlankChar, c = '\n' := by
      intro c hc
      refine ends text (Utf8.decode?_encode text) c ?_
      rw [text_eq]
      exact rtakeWhile_subset_append _ _ _ hc
    rw [encode_blankLine, decode, decode, Utf8.decode?_encode_append]
    cases Utf8.decode? second with
    | none => rfl
    | some rest =>
      have behind := decodeText_append (Lines.head?_dropNewlines text) ends' read rest
      rw [Lines.dropNewlines_append_dropNewlines] at behind
      show d.decodeText (Lines.dropNewlines (text ++ ['\n', '\n'] ++ rest)) = _
      rw [List.append_assoc]
      exact behind
  refine ⟨whole, ?_⟩
  rw [decodePair_succeeds_iff, whole]
  cases d.decode second with
  | error e => simp [Except.map]
  | ok more => simp [Except.map]

/-- The signed block twice: the newline after its signature stands in front of the blank line. -/
theorem decode_concatenated_loose :
    looseDecoder.decode
        (Utf8.encode looseText.text ++ blankLine ++ Utf8.encode looseText.text) =
          .ok [looseAssertion, looseAssertion] ∧
      ∃ pair, looseDecoder.decodePair
        (Utf8.encode looseText.text ++ blankLine ++ Utf8.encode looseText.text) = .ok pair := by
  have ends : EndsInNewlines (Utf8.encode looseText.text) :=
    endsInNewlines_text (looseScheme.length_sign (List.replicate 32 1) _) rfl
  obtain ⟨whole, pair_iff⟩ :=
    decode_concatenated decode_looseText ends (Utf8.encode looseText.text)
  rw [decode_looseText] at whole
  exact ⟨whole, pair_iff.2 ⟨_, decode_looseText, rfl⟩⟩

end FleetIdentity.Decoder
