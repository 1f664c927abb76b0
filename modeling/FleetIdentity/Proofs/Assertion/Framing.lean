import FleetIdentity.Proofs.Assertion.Verification
import FleetIdentity.Proofs.Text.Lines
import FleetIdentity.Proofs.Text.Utf8

/-!
# What an accepted stream is made of

Decoding fails as an invalid assertion, or every octet of the stream is accounted for: newlines in
front, then for each assertion a block without a blank line, a blank line and a signature that
vouches for exactly that block, and newlines up to the next block or white space up to the end.

Nothing is said here about which streams are accepted, nor about the strength of the scheme.
-/

namespace FleetIdentity.Decoder

/-- A text that splits into signed blocks, one for each assertion, and leaves no character over. A
signature ends at a blank line or with the text. -/
inductive Framed (d : Decoder) : List Char → List Assertion → Prop where
  | done {rest : List Char} (blank : ∀ c ∈ rest, isBlankChar c = true) : Framed d rest []
  | more {block signature gap rest : List Char} {a : Assertion} {later : List Assertion}
      (no_blank_line : ∀ line ∈ Lines.split block, line ≠ [])
      (accepted : d.Accepts block signature a) (newlines : ∀ c ∈ gap, c = '\n')
      (separated : rest ≠ [] → 2 ≤ gap.length) (framed : Framed d rest later) :
      Framed d (block ++ '\n' :: '\n' :: signature ++ gap ++ rest) (a :: later)

/-- The stream is the UTF-8 form of newlines and a framed text. -/
def Reads (d : Decoder) (stream : Octets) (assertions : List Assertion) : Prop :=
  ∃ newlines text, stream = Utf8.encode (newlines ++ text) ∧ (∀ c ∈ newlines, c = '\n') ∧
    d.Framed text assertions

/-- The signature section is the front of the text, and only newlines lie between it and the text
where the next block starts. -/
theorem eq_append_splitSignature (text : List Char) :
    ∃ gap, (∀ c ∈ gap, c = '\n') ∧
      (Lines.dropNewlines (splitSignature text).2 ≠ [] → 2 ≤ gap.length) ∧
      text = (splitSignature text).1 ++ gap ++ Lines.dropNewlines (splitSignature text).2 := by
  unfold splitSignature
  cases cut : Lines.splitBlank? text with
  | none => exact ⟨[], by simp, fun more => absurd rfl more, by simp [Lines.dropNewlines]⟩
  | some parts =>
    obtain ⟨signature, after⟩ := parts
    obtain ⟨newlines, only, eq⟩ := Lines.eq_append_dropNewlines after
    refine ⟨'\n' :: '\n' :: newlines, ?_, fun _ => by simp, ?_⟩
    · intro c hc
      rcases List.mem_cons.1 hc with rfl | hc
      · rfl
      rcases List.mem_cons.1 hc with rfl | hc
      · rfl
      · exact only c hc
    · rw [Lines.append_of_splitBlank? cut, Option.getD_some]
      simp only [List.append_assoc, List.cons_append]
      rw [← eq]

/-- A text with a blank line is a block, the blank line, a signature, newlines, and the text where
the next block starts. -/
theorem eq_append_of_cut {text block after : List Char}
    (cut : Lines.splitBlank? text = some (block, after)) :
    ∃ gap, (∀ c ∈ gap, c = '\n') ∧
      (Lines.dropNewlines (splitSignature after).2 ≠ [] → 2 ≤ gap.length) ∧
      text = block ++ '\n' :: '\n' :: (splitSignature after).1 ++ gap ++
        Lines.dropNewlines (splitSignature after).2 := by
  obtain ⟨gap, newlines, separated, eq⟩ := eq_append_splitSignature after
  refine ⟨gap, newlines, separated, ?_⟩
  rw [Lines.append_of_splitBlank? cut]
  conv => lhs; rw [eq]
  simp only [List.append_assoc, List.cons_append]

theorem framed_of_decodeText {d : Decoder} {text : List Char} {assertions : List Assertion}
    (start : text.head? ≠ some '\n') (h : d.decodeText text = .ok assertions) :
    d.Framed text assertions := by
  -- Each round of the reader takes one block, its signature and the gap after it; that the rest
  -- does not start with a newline is what keeps blank lines out of the next block.
  fun_induction decodeText d text generalizing assertions with
  | case1 text blank =>
    cases h
    exact .done (List.all_eq_true.1 blank)
  | case2 => cases h
  | case3 text _ block after cut ih =>
    simp only [bind_eq_ok_iff] at h
    obtain ⟨a, verified, later, decoded, h⟩ := h
    cases h
    obtain ⟨gap, newlines, separated, whole⟩ := eq_append_of_cut cut
    have framed := ih (Lines.head?_dropNewlines _) decoded
    have no_blank_line := (Lines.lines_before_blank cut).2 start
    rw [whole]
    exact .more no_blank_line (verify_eq_ok_iff.1 verified) newlines separated framed

theorem decodeText_error {d : Decoder} {text : List Char} {e : IdentityError}
    (h : d.decodeText text = .error e) : ∃ reason, e = .invalidAssertion reason := by
  fun_induction decodeText d text with
  | case1 => cases h
  | case2 => cases h; exact ⟨_, rfl⟩
  | case3 text _ block after cut ih =>
    rcases bind_eq_error_iff.1 h with h | ⟨a, _, h⟩
    · exact verify_error h
    rcases bind_eq_error_iff.1 h with h | ⟨later, _, h⟩
    · exact ih h
    · cases h

theorem reads_of_decode {d : Decoder} {stream : Octets} {assertions : List Assertion}
    (h : d.decode stream = .ok assertions) : d.Reads stream assertions := by
  unfold decode at h
  split at h
  · cases h
  · next text read =>
    obtain ⟨newlines, only, eq⟩ := Lines.eq_append_dropNewlines text
    refine ⟨newlines, Lines.dropNewlines text, ?_, only, ?_⟩
    · rw [← eq]
      exact Utf8.decode?_eq_some_iff.1 read
    · exact framed_of_decodeText (Lines.head?_dropNewlines text) h

theorem decodePair_eq_ok_iff {d : Decoder} {stream : Octets} {first second : Assertion} :
    d.decodePair stream = .ok (first, second) ↔ d.decode stream = .ok [first, second] := by
  rw [decodePair, bind_eq_ok_iff]
  constructor
  · rintro ⟨assertions, decoded, h⟩
    split at h
    · cases h
      exact decoded
    · cases h
  · intro decoded
    exact ⟨[first, second], decoded, rfl⟩

/-- Decoding either refuses the stream as an invalid assertion, or returns the assertions of a
stream in which every octet of every block is signed by the trusted key that the block names. -/
theorem decode_refuses_or_reads (d : Decoder) (stream : Octets) :
    (∃ reason, d.decode stream = .error (.invalidAssertion reason)) ∨
      ∃ assertions, d.decode stream = .ok assertions ∧ d.Reads stream assertions := by
  cases h : d.decode stream with
  | ok assertions => exact .inr ⟨assertions, rfl, reads_of_decode h⟩
  | error e =>
    left
    have invalid : ∃ reason, e = .invalidAssertion reason := by
      unfold decode at h
      split at h
      · cases h
        exact ⟨_, rfl⟩
      · exact decodeText_error h
    obtain ⟨reason, rfl⟩ := invalid
    exact ⟨reason, rfl⟩

end FleetIdentity.Decoder
