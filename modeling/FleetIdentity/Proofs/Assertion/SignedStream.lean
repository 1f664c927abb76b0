import FleetIdentity.Proofs.Assertion.Verification
import FleetIdentity.Proofs.Assertion.WrittenHeaders
import FleetIdentity.Proofs.Text.Utf8
import Mathlib.Data.List.Forall2

/-!
# Signed assertions are read back

Signed assertions joined by newlines are cut again at the places where they were joined, so that a
stream of them is decoded exactly if each block is verified on its own. With the keys trusted, a
block that was signed is verified unless its type or its authority is empty or a header occurs
twice; the assertion then has the headers that were given and the three that the signer adds.

That a signature made with a seed verifies under the seed's public key is taken from the scheme.
-/

namespace FleetIdentity

/-- The signing of one assertion: who signs, with which seed, and what. -/
structure SigningCall where
  authorityId : String
  seed : Octets
  typeName : String
  headers : List (String × HeaderValue)

namespace SigningCall

/-- The signer of the call, under a scheme. -/
def signer (c : SigningCall) (scheme : SignatureScheme) : Signer where
  scheme := scheme
  authorityId := c.authorityId
  seed := c.seed

/-- What the call gives. -/
def result (c : SigningCall) (scheme : SignatureScheme) : Except IdentityError SignedText :=
  (c.signer scheme).sign c.typeName c.headers

/-- The headers of the assertion: the type, the authority and the key, then those given. -/
def entries (c : SigningCall) (scheme : SignatureScheme) : List (String × HeaderValue) :=
  (typeHeader, .text c.typeName) :: (authorityHeader, .text c.authorityId) ::
    (signKeyHeader, .text (c.signer scheme).signKeyId) :: c.headers

/-- The type and the authority are there, and no header is given twice. -/
def Readable (c : SigningCall) : Prop :=
  c.typeName ≠ "" ∧ c.authorityId ≠ "" ∧ (c.headers.map (·.1)).Nodup

end SigningCall

open HeaderBlock

/-! ### What the signer writes -/

theorem writtenAll_of_givenLines {headers : List (String × HeaderValue)}
    {lines : List (List Char)} (h : Signer.givenLines headers = .ok lines) :
    WrittenAll headers lines ∧ ∀ name ∈ headers.map (·.1), name ∉ Signer.reserved := by
  induction headers generalizing lines with
  | nil =>
    cases h
    exact ⟨.nil, by simp⟩
  | cons entry headers ih =>
    obtain ⟨name, value⟩ := entry
    rw [Signer.givenLines] at h
    split at h
    · cases h
    next free =>
      simp only [bind_eq_ok_iff] at h
      obtain ⟨first, written, more, later, h⟩ := h
      cases h
      obtain ⟨all, free_later⟩ := ih later
      refine ⟨.cons written all, ?_⟩
      intro other ho
      rcases List.mem_cons.1 ho with rfl | ho
      · simpa using free
      · exact free_later other ho

/-- A signed text in the shape that the stream needs: a block of written headers, and a signature
on one line. -/
structure SignedText.Plain (t : SignedText) (entries : List (String × HeaderValue)) : Prop where
  some_entry : entries ≠ []
  block_eq : ∃ lines, WrittenAll entries lines ∧ t.block = Lines.join lines
  one_line : '\n' ∉ t.signature

theorem newline_not_mem_encode (octets : Octets) : '\n' ∉ Base64.encode octets := by
  intro m
  have blank : isBlankChar '\n' = true := by decide
  rw [Base64.isBlankChar_of_mem_encode m] at blank
  cases blank

theorem SigningCall.result_eq_ok {c : SigningCall} {scheme : SignatureScheme} {t : SignedText}
    (h : c.result scheme = .ok t) :
    t.Plain (c.entries scheme) ∧ (∀ name ∈ c.headers.map (·.1), name ∉ Signer.reserved) ∧
      t.signature = Base64.encode (scheme.sign c.seed (Utf8.encode t.block)) := by
  simp only [SigningCall.result, Signer.sign, bind_eq_ok_iff, mapError_eq_ok_iff] at h
  obtain ⟨block, written, h⟩ := h
  cases h
  simp only [Signer.block, bind_eq_ok_iff] at written
  obtain ⟨typeLines, type_written, authorityLines, authority_written, keyLines, key_written,
    lines, given, h⟩ := written
  cases h
  obtain ⟨all, free⟩ := writtenAll_of_givenLines given
  refine ⟨⟨List.cons_ne_nil _ _,
    ⟨typeLines ++ (authorityLines ++ (keyLines ++ lines)), ?_, ?_⟩, ?_⟩, free, rfl⟩
  · exact .cons type_written (.cons authority_written (.cons key_written all))
  · simp only [List.append_assoc]
  · exact newline_not_mem_encode _

/-! ### The stream is cut where it was joined -/

theorem SignedText.Plain.head? {t : SignedText} {entries : List (String × HeaderValue)}
    (h : t.Plain entries) (rest : List Char) : (t.block ++ rest).head? ≠ some '\n' := by
  obtain ⟨lines, all, eq⟩ := h.block_eq
  have colon := all.colon_mem h.some_entry
  rw [← eq] at colon
  obtain ⟨c, tail, cons⟩ := List.exists_cons_of_ne_nil (List.ne_nil_of_mem colon)
  have start := Lines.head?_join all.line
  rw [← eq] at start
  rw [cons] at start ⊢
  exact start

theorem block_prefix_join (t : SignedText) (texts : List SignedText) :
    t.block <+: Lines.join ((t :: texts).map SignedText.text) := by
  cases texts with
  | nil => exact ⟨_, (List.append_assoc _ _ _).symm⟩
  | cons second texts =>
    refine ⟨('\n' :: '\n' :: t.signature ++ ['\n']) ++
      '\n' :: Lines.join ((second :: texts).map SignedText.text), ?_⟩
    rw [← List.append_assoc, ← List.append_assoc]
    rfl

theorem splitSignature_newline {signature : List Char} (h : '\n' ∉ signature) :
    Decoder.splitSignature (signature ++ ['\n']) = (signature ++ ['\n'], []) := by
  rw [Decoder.splitSignature, Lines.splitBlank?_of_not_mem h]
  rfl

theorem splitSignature_blank {signature : List Char} (h : '\n' ∉ signature) (rest : List Char) :
    Decoder.splitSignature (signature ++ '\n' :: '\n' :: rest) = (signature, rest) := by
  rw [Decoder.splitSignature, Lines.splitBlank?_append_of_not_mem h]
  simp [Lines.splitBlank?]

namespace Decoder

variable {d : Decoder}

/-- White space in a signature is not seen. -/
theorem verify_of_symbols (block : List Char) {signature other : List Char}
    (same : other.filter (fun c => !isBlankChar c) = signature.filter fun c => !isBlankChar c) :
    d.verify block other = d.verify block signature := by
  have octets_eq : signatureOctets other = signatureOctets signature := by
    rw [signatureOctets, signatureOctets, same]
  rw [verify, verifiedHeaders, octets_eq]
  rfl

theorem verify_append_newline (block signature : List Char) :
    d.verify block (signature ++ ['\n']) = d.verify block signature := by
  refine verify_of_symbols block ?_
  rw [List.filter_append]
  exact List.append_nil _

theorem decodeText_of_blank {text : List Char} (blank : text.all isBlankChar = true) :
    d.decodeText text = .ok [] := by
  rw [decodeText, if_pos blank]

/-- One round of the reader: a block, its signature, and then the text behind the gap. -/
theorem decodeText_of_cut {text block after : List Char}
    (not_blank : ¬ text.all isBlankChar = true)
    (cut : Lines.splitBlank? text = some (block, after)) :
    d.decodeText text = do
      let a ← d.verify block (splitSignature after).1
      let later ← d.decodeText (Lines.dropNewlines (splitSignature after).2)
      return a :: later := by
  rw [decodeText, if_neg not_blank]
  split
  · next none_found =>
    rw [cut] at none_found
    cases none_found
  · next found =>
    rw [cut] at found
    cases found
    rfl

/-- Lines that are not empty are read as one block, up to the blank line after them. -/
theorem decodeText_lines {lines : List (List Char)} (some_line : lines ≠ [])
    (line : ∀ line ∈ lines, '\n' ∉ line ∧ line ≠ []) (colon : ':' ∈ Lines.join lines)
    (after : List Char) :
    d.decodeText (Lines.join lines ++ '\n' :: '\n' :: after) = do
      let a ← d.verify (Lines.join lines) (splitSignature after).1
      let later ← d.decodeText (Lines.dropNewlines (splitSignature after).2)
      return a :: later := by
  refine decodeText_of_cut ?_ (Lines.splitBlank?_join some_line line after)
  intro blank
  have := List.all_eq_true.1 blank ':' (List.mem_append_left _ colon)
  exact absurd this (by decide)

theorem decodeText_block {t : SignedText} {entries : List (String × HeaderValue)}
    (h : t.Plain entries) (after : List Char) :
    d.decodeText (t.block ++ '\n' :: '\n' :: after) = do
      let a ← d.verify t.block (splitSignature after).1
      let later ← d.decodeText (Lines.dropNewlines (splitSignature after).2)
      return a :: later := by
  obtain ⟨lines, all, eq⟩ := h.block_eq
  rw [eq]
  exact decodeText_lines (all.ne_nil h.some_entry) all.line (all.colon_mem h.some_entry) after

/-- A stream of signed texts is decoded exactly if each of them is verified. -/
theorem decodeText_join {texts : List SignedText}
    (plain : ∀ t ∈ texts, ∃ entries, t.Plain entries) {assertions : List Assertion} :
    d.decodeText (Lines.join (texts.map SignedText.text)) = .ok assertions ↔
      List.Forall₂ (fun t a => d.verify t.block t.signature = .ok a) texts assertions := by
  induction texts generalizing assertions with
  | nil =>
    rw [List.map_nil, Lines.join, decodeText_of_blank List.all_nil, List.forall₂_nil_left_iff]
    constructor
    · intro h
      cases h
      rfl
    · rintro rfl
      rfl
  | cons t texts ih =>
    obtain ⟨entries, shape⟩ := plain t List.mem_cons_self
    have ih' := @ih fun u hu => plain u (List.mem_cons_of_mem _ hu)
    -- The last signature ends with the text, every other one at the blank line before a block.
    have step : d.decodeText (Lines.join ((t :: texts).map SignedText.text)) = do
        let a ← d.verify t.block t.signature
        let later ← d.decodeText (Lines.join (texts.map SignedText.text))
        return a :: later := by
      cases texts with
      | nil =>
        have text_eq : Lines.join ([t].map SignedText.text) =
            t.block ++ '\n' :: '\n' :: (t.signature ++ ['\n']) := by
          simp [Lines.join, SignedText.text]
        rw [text_eq, decodeText_block shape, splitSignature_newline shape.one_line,
          verify_append_newline]
        rfl
      | cons second texts =>
        obtain ⟨_, next_shape⟩ := plain second (by simp)
        have text_eq : Lines.join ((t :: second :: texts).map SignedText.text) = t.block ++
            '\n' :: '\n' :: (t.signature ++ '\n' :: '\n' ::
              Lines.join ((second :: texts).map SignedText.text)) := by
          simp [Lines.join, SignedText.text]
        have start : (Lines.join ((second :: texts).map SignedText.text)).head? ≠ some '\n' := by
          obtain ⟨rest, front⟩ := block_prefix_join second texts
          rw [← front]
          exact next_shape.head? rest
        rw [text_eq, decodeText_block shape, splitSignature_blank shape.one_line,
          Lines.dropNewlines_of_head? start]
    rw [step, List.forall₂_cons_left_iff]
    simp only [bind_eq_ok_iff, ih']
    constructor
    · rintro ⟨a, verified, later, decoded, h⟩
      cases h
      exact ⟨a, later, verified, decoded, rfl⟩
    · rintro ⟨a, later, verified, decoded, rfl⟩
      exact ⟨a, verified, later, decoded, rfl⟩

/-! ### The signed block is accepted -/

theorem nodup_entries {c : SigningCall} {scheme : SignatureScheme}
    (free : ∀ name ∈ c.headers.map (·.1), name ∉ Signer.reserved) :
    ((c.entries scheme).map (·.1)).Nodup ↔ (c.headers.map (·.1)).Nodup := by
  have names : (c.entries scheme).map (·.1) = Signer.reserved ++ c.headers.map (·.1) := rfl
  have reserved : Signer.reserved.Nodup := by decide
  rw [names, List.nodup_append]
  constructor
  · rintro ⟨_, nodup, _⟩
    exact nodup
  · intro nodup
    refine ⟨reserved, nodup, ?_⟩
    rintro name taken other given rfl
    exact free name given taken

theorem collect_entries {c : SigningCall} {scheme : SignatureScheme}
    (free : ∀ name ∈ c.headers.map (·.1), name ∉ Signer.reserved) :
    (∃ collected, collect Dictionary.empty (c.entries scheme) = .ok collected) ↔
      (c.headers.map (·.1)).Nodup := by
  rw [collect_ok_iff, nodup_entries free]
  exact and_iff_left fun name _ => rfl

theorem get?_entries {c : SigningCall} {scheme : SignatureScheme} {headers : Headers}
    (h : collect Dictionary.empty (c.entries scheme) = .ok headers) (name : String)
    (value : HeaderValue) : headers.get? name = some value ↔ (name, value) ∈ c.entries scheme := by
  rw [get?_collect h, Dictionary.get?_empty]
  simp

/-- What was signed with a trusted key is verified if it is readable, as what was signed. -/
theorem verify_result {c : SigningCall} {t : SignedText} (made : c.result d.scheme = .ok t)
    (trusted : d.trusted.get? (c.signer d.scheme).signKeyId =
      some { authorityId := c.authorityId, key := d.scheme.publicKey c.seed })
    (correct : ∀ message,
      d.scheme.verify (d.scheme.publicKey c.seed) message (d.scheme.sign c.seed message) = true) :
    ((∃ a, d.verify t.block t.signature = .ok a) ↔ c.Readable) ∧
      ∀ a, d.verify t.block t.signature = .ok a → ∀ name value,
        a.headers.get? name = some value ↔ (name, value) ∈ c.entries d.scheme := by
  obtain ⟨⟨some_entry, ⟨lines, all, block_eq⟩, _⟩, free, signature_eq⟩ :=
    SigningCall.result_eq_ok made
  have parsed : parse t.block = collect Dictionary.empty (c.entries d.scheme) := by
    rw [block_eq]
    exact parse_join (all.ne_nil some_entry) all
  have typed : (typeHeader, .text c.typeName) ∈ c.entries d.scheme := by
    simp [SigningCall.entries]
  have named : (authorityHeader, .text c.authorityId) ∈ c.entries d.scheme := by
    simp [SigningCall.entries]
  have key_named :
      (signKeyHeader, .text (c.signer d.scheme).signKeyId) ∈ c.entries d.scheme := by
    simp [SigningCall.entries]
  simp only [verify_eq_ok_iff]
  constructor
  · constructor
    · rintro ⟨a, headers_eq, type_ne, vouched⟩
      rw [parsed] at headers_eq
      have get := get?_entries headers_eq
      obtain ⟨authorityId, _, _, _, authority, authority_ne, _⟩ := vouched
      have type_eq : a.typeName = c.typeName := by
        simpa [a.typeName_eq] using (get _ _).2 typed
      have authority_eq : authorityId = c.authorityId := by
        simpa [authority] using (get _ _).2 named
      exact ⟨type_eq ▸ type_ne, authority_eq ▸ authority_ne,
        (collect_entries free).1 ⟨_, headers_eq⟩⟩
    · rintro ⟨type_ne, authority_ne, nodup⟩
      obtain ⟨headers, headers_eq⟩ := (collect_entries free).2 nodup
      have get := get?_entries headers_eq
      refine ⟨⟨c.typeName, headers, (get _ _).2 typed⟩, parsed.trans headers_eq, type_ne,
        c.authorityId, _, _, _, (get _ _).2 named, authority_ne, (get _ _).2 key_named,
        d.scheme.keyId_ne_empty _, trusted, ?_, correct (Utf8.encode t.block)⟩
      rw [signature_eq]
      exact writtenAs_encode (d.scheme.length_sign _ _)
  · rintro a ⟨headers_eq, _, _⟩
    rw [parsed] at headers_eq
    exact get?_entries headers_eq

theorem decode_join {texts : List SignedText} (plain : ∀ t ∈ texts, ∃ entries, t.Plain entries) :
    d.decode (Utf8.encode (Lines.join (texts.map SignedText.text))) =
      d.decodeText (Lines.join (texts.map SignedText.text)) := by
  have start : (Lines.join (texts.map SignedText.text)).head? ≠ some '\n' := by
    cases texts with
    | nil => exact nofun
    | cons t texts =>
      obtain ⟨_, shape⟩ := plain t List.mem_cons_self
      obtain ⟨rest, front⟩ := block_prefix_join t texts
      rw [← front]
      exact shape.head? rest
  rw [decode, Utf8.decode?_encode]
  dsimp only
  rw [Lines.dropNewlines_of_head? start]

/-- A stream of signed assertions is decoded if and only if in every call the type and the authority
are not empty and no header occurs twice, and what is decoded is what was signed, in its order. -/
theorem decode_signed {calls : List SigningCall} {texts : List SignedText}
    (made : List.Forall₂ (fun c t => c.result d.scheme = .ok t) calls texts)
    (trusted : ∀ c ∈ calls, d.trusted.get? (c.signer d.scheme).signKeyId =
      some { authorityId := c.authorityId, key := d.scheme.publicKey c.seed })
    (correct : ∀ c ∈ calls, ∀ message,
      d.scheme.verify (d.scheme.publicKey c.seed) message (d.scheme.sign c.seed message) = true) :
    ((∃ assertions, d.decode (Utf8.encode (Lines.join (texts.map SignedText.text))) =
        .ok assertions) ↔ ∀ c ∈ calls, c.Readable) ∧
      ∀ assertions, d.decode (Utf8.encode (Lines.join (texts.map SignedText.text))) =
          .ok assertions →
        List.Forall₂ (fun c a => ∀ name value,
          a.headers.get? name = some value ↔ (name, value) ∈ c.entries d.scheme)
          calls assertions := by
  have plain : ∀ t ∈ texts, ∃ entries, t.Plain entries := by
    intro t ht
    clear trusted correct
    induction made with
    | nil => cases ht
    | cons first _ ih =>
      rcases List.mem_cons.1 ht with rfl | ht
      · exact ⟨_, (SigningCall.result_eq_ok first).1⟩
      · exact ih ht
  simp only [decode_join plain, decodeText_join plain]
  clear plain
  induction made with
  | nil => simp
  | @cons c t calls texts first _ ih =>
    obtain ⟨verified_iff, verified_as⟩ := verify_result first (trusted c List.mem_cons_self)
      (correct c List.mem_cons_self)
    obtain ⟨later_iff, later_as⟩ := ih (fun c hc => trusted c (List.mem_cons_of_mem _ hc))
      (fun c hc => correct c (List.mem_cons_of_mem _ hc))
    constructor
    · rw [List.forall_mem_cons, ← verified_iff, ← later_iff]
      constructor
      · rintro ⟨_, h⟩
        obtain ⟨a, later, verified, decoded, rfl⟩ := List.forall₂_cons_left_iff.1 h
        exact ⟨⟨a, verified⟩, later, decoded⟩
      · rintro ⟨⟨a, verified⟩, later, decoded⟩
        exact ⟨a :: later, .cons verified decoded⟩
    · intro assertions h
      obtain ⟨a, later, verified, decoded, rfl⟩ := List.forall₂_cons_left_iff.1 h
      exact .cons (verified_as a verified) (later_as later decoded)

/-! ### A stream of two assertions -/

/-- A model assertion with a list and with a text of several lines, one of them empty. -/
def modelCall : SigningCall where
  authorityId := "acme"
  seed := List.replicate 32 1
  typeName := "model"
  headers := [("brand-id", .text "acme"), ("model", .text "x1"), ("features", .list ["gps", ""]),
    ("note", .text "two\n\n  lines")]

/-- The serial assertion of the same device by another key, with an empty text. -/
def serialCall : SigningCall where
  authorityId := "acme"
  seed := List.replicate 32 2
  typeName := "serial"
  headers := [("brand-id", .text "acme"), ("model", .text "x1"), ("serial", .text "S-1"),
    ("device-key", .text "k"), ("batch", .text "")]

/-- The block of the model assertion. -/
def modelBlock : List Char :=
  Lines.join <| List.map String.toList ["type: model", "authority-id: acme",
    "sign-key-id: 83561adb398fd87f8e7ed8331bff2fcb945733cc3012879cb9fab07928667062",
    "brand-id: acme", "model: x1", "features:", "  - gps", "  - ", "note:", "  two", "  ",
    "    lines"]

/-- The block of the serial assertion. -/
def serialBlock : List Char :=
  Lines.join <| List.map String.toList ["type: serial", "authority-id: acme",
    "sign-key-id: 1eed29b1654fbca94617004d7969dfc4652b1f30a7a8b771c34800155483380b",
    "brand-id: acme", "model: x1", "serial: S-1", "device-key: k", "batch:"]

/-- The Ed25519 signatures of the two blocks, each under its own seed. -/
def tabledSignature (message : Octets) : Octets :=
  Octets.ofNat 64 <|
    if message = Utf8.encode modelBlock then
      0xcac7269c7173a3bca5ea00ab998229d6cfa2ab5609f67ba2832dd9325fcf7ebe * 2 ^ 256 +
        0x327df3df2052acd860a656f6efe32b28f18641d9962a813bfc0e0dafc4bfd208
    else if message = Utf8.encode serialBlock then
      0xef3b0cf841144077065ee09f68d1804e94b0ba66ebe59d7949c0f828e3461f63 * 2 ^ 256 +
        0xce877cc8cd6db64d4685b6c0e59b2f148ec4ce41e9f4f58ea9a31f9a87ee670f
    else 0

/-- What Ed25519 and BLAKE3 give for the two seeds, their keys and the two blocks. -/
def tabledScheme : SignatureScheme where
  isPublicKey key := key.length = 32
  keyId key := Hex.text <| Octets.ofNat 32 <|
    if key.toNat = 0x8a88e3dd7409f195fd52db2d3cba5d72ca6709bf1d94121bf3748801b40f6f5c then
      0x83561adb398fd87f8e7ed8331bff2fcb945733cc3012879cb9fab07928667062
    else 0x1eed29b1654fbca94617004d7969dfc4652b1f30a7a8b771c34800155483380b
  publicKey seed := Octets.ofNat 32 <|
    if seed = modelCall.seed then
      0x8a88e3dd7409f195fd52db2d3cba5d72ca6709bf1d94121bf3748801b40f6f5c
    else 0x8139770ea87d175f56a35466c34c7ecccb8d8a91b4ee37a25df60f5b8fc9b394
  sign _ message := tabledSignature message
  verify _ message signature := signature = tabledSignature message
  keyId_ne_empty _ := Hex.text_ne_empty (by simp [← List.length_pos_iff])
  length_sign _ _ := Octets.length_ofNat _ _

/-- The decoder that trusts the two keys. -/
def tabledDecoder : Decoder :=
  ((Decoder.empty tabledScheme).trust "acme" (tabledScheme.publicKey modelCall.seed)).trust "acme"
    (tabledScheme.publicKey serialCall.seed)

/-- The model assertion as it is signed. -/
def modelText : SignedText where
  block := modelBlock
  signature := Base64.encode (tabledSignature (Utf8.encode modelBlock))

/-- The serial assertion as it is signed. -/
def serialText : SignedText where
  block := serialBlock
  signature := Base64.encode (tabledSignature (Utf8.encode serialBlock))

theorem result_modelCall : modelCall.result tabledScheme = .ok modelText := by
  have block_eq : (modelCall.signer tabledScheme).block modelCall.typeName modelCall.headers =
      .ok modelBlock := by decide +kernel
  rw [SigningCall.result, Signer.sign, block_eq]
  rfl

theorem result_serialCall : serialCall.result tabledScheme = .ok serialText := by
  have block_eq : (serialCall.signer tabledScheme).block serialCall.typeName serialCall.headers =
      .ok serialBlock := by decide +kernel
  rw [SigningCall.result, Signer.sign, block_eq]
  rfl

theorem decode_signed_two : ∃ assertions,
    tabledDecoder.decode (Utf8.encode (Lines.join ([modelText, serialText].map SignedText.text))) =
        .ok assertions ∧
      List.Forall₂ (fun c a => ∀ name value,
        a.headers.get? name = some value ↔ (name, value) ∈ c.entries tabledScheme)
        [modelCall, serialCall] assertions := by
  have trusted : ∀ c ∈ [modelCall, serialCall],
      tabledDecoder.trusted.get? (c.signer tabledScheme).signKeyId =
        some { authorityId := c.authorityId, key := tabledScheme.publicKey c.seed } := by
    decide +kernel
  have readable : ∀ c ∈ [modelCall, serialCall], c.Readable := by
    unfold SigningCall.Readable
    decide
  obtain ⟨decoded_iff, decoded_as⟩ := @decode_signed tabledDecoder [modelCall, serialCall]
    [modelText, serialText] (.cons result_modelCall (.cons result_serialCall .nil)) trusted
    (fun c _ message => decide_eq_true rfl)
  obtain ⟨assertions, decoded⟩ := decoded_iff.2 readable
  exact ⟨assertions, decoded, decoded_as assertions decoded⟩

end Decoder

end FleetIdentity
