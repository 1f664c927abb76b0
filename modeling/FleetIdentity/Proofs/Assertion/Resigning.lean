import FleetIdentity.Proofs.Assertion.Framing
import FleetIdentity.Proofs.Assertion.SignedStream

/-!
# Decoded assertions can be signed again

Whatever was decoded can be signed by another authority, however it was spelled: the headers of an
accepted block can all be written, and what is written is read back as these headers. Only the
authority and the key are those of the new signer.

What a signer needs is an authority that is not empty and stands on one line. The names of keys hold
no newline, as they are digits. That a signature made with a seed verifies under the seed's public
key is taken from the scheme.
-/

namespace FleetIdentity

open HeaderBlock

/-- The headers of an assertion that its signer was given. -/
def Assertion.givenHeaders (a : Assertion) : List (String × HeaderValue) :=
  a.headers.entries.filter fun entry => entry.1 ∉ Signer.reserved

theorem Assertion.mem_givenHeaders {a : Assertion} {name : String} {value : HeaderValue} :
    (name, value) ∈ a.givenHeaders ↔
      a.headers.get? name = some value ∧ name ∉ Signer.reserved := by
  rw [givenHeaders, List.mem_filter, Dictionary.mem_entries_iff, decide_eq_true_iff]

theorem Assertion.givenHeaders_nodup (a : Assertion) : (a.givenHeaders.map (·.1)).Nodup :=
  (List.filter_sublist.map _).nodup a.headers.keys_nodup

/-- The headers of an assertion with the authority and the key of a signer. -/
def Assertion.headersBy (a : Assertion) (s : Signer) : Headers :=
  (a.headers.insert authorityHeader (.text s.authorityId)).insert signKeyHeader (.text s.signKeyId)

theorem Assertion.get?_headersBy_type (a : Assertion) (s : Signer) :
    (a.headersBy s).get? typeHeader = some (.text a.typeName) := by
  have differs : typeHeader ≠ signKeyHeader ∧ typeHeader ≠ authorityHeader := by decide
  rw [headersBy, Dictionary.get?_insert, Dictionary.get?_insert, if_neg differs.1,
    if_neg differs.2, a.typeName_eq]

theorem Hex.newline_not_mem_encode (octets : Octets) : '\n' ∉ Hex.encode octets := by
  have digit : ∀ n < 16, '\n' ≠ Nat.digitChar n := by decide
  intro mem
  obtain ⟨x, _, mem⟩ := List.mem_flatMap.1 mem
  have hx : x.toNat < 256 := x.toNat_lt
  rcases List.mem_pair.1 mem with high | low
  · exact digit (x.toNat / 16) (by omega) high
  · exact digit (x.toNat % 16) (by omega) low

theorem SignatureScheme.newline_not_mem_keyId (key : Octets) :
    '\n' ∉ (ed25519.keyId key).toList := by
  have name_eq : (ed25519.keyId key).toList = Hex.encode (Blake3.digest key) :=
    String.toList_ofList
  rw [name_eq]
  exact Hex.newline_not_mem_encode _

/-! ### What the signer accepts -/

theorem write_of_one_line {name text : String} (named : isName name.toList = true)
    (one_line : '\n' ∉ text.toList) : ∃ lines, write name (.text text) = .ok lines := by
  have no_newline : text.toList.contains '\n' = false := by simpa using one_line
  unfold write
  rw [if_pos named]
  dsimp only
  rw [no_newline]
  cases text.isEmpty with
  | true => exact ⟨_, rfl⟩
  | false => exact ⟨_, rfl⟩

theorem givenLines_eq_ok {headers : List (String × HeaderValue)}
    (free : ∀ name value, (name, value) ∈ headers → name ∉ Signer.reserved)
    (written : ∀ name value, (name, value) ∈ headers → ∃ lines, write name value = .ok lines) :
    ∃ lines, Signer.givenLines headers = .ok lines := by
  induction headers with
  | nil => exact ⟨[], rfl⟩
  | cons entry headers ih =>
    obtain ⟨name, value⟩ := entry
    obtain ⟨lines, first⟩ := written name value List.mem_cons_self
    obtain ⟨more, later⟩ := ih (fun n v mem => free n v (List.mem_cons_of_mem _ mem))
      (fun n v mem => written n v (List.mem_cons_of_mem _ mem))
    have allowed : ¬ Signer.reserved.contains name = true := by
      simpa using free name value List.mem_cons_self
    refine ⟨lines ++ more, ?_⟩
    rw [Signer.givenLines, if_neg allowed, first, later]
    rfl

/-- A signer signs headers that can be written, none of which it sets itself. -/
theorem Signer.sign_eq_ok {s : Signer} {typeName : String} {headers : List (String × HeaderValue)}
    (typed : ∃ lines, write typeHeader (.text typeName) = .ok lines)
    (one_line : '\n' ∉ s.authorityId.toList) (key_line : '\n' ∉ s.signKeyId.toList)
    (free : ∀ name value, (name, value) ∈ headers → name ∉ Signer.reserved)
    (written : ∀ name value, (name, value) ∈ headers → ∃ lines, write name value = .ok lines) :
    ∃ t, s.sign typeName headers = .ok t := by
  obtain ⟨typeLines, typed⟩ := typed
  obtain ⟨authorityLines, named⟩ := @write_of_one_line authorityHeader _ (by decide) one_line
  obtain ⟨keyLines, key_named⟩ := @write_of_one_line signKeyHeader _ (by decide) key_line
  obtain ⟨lines, given⟩ := givenLines_eq_ok free written
  have block : s.block typeName headers =
      .ok (Lines.join (typeLines ++ authorityLines ++ keyLines ++ lines)) := by
    rw [Signer.block, typed, named, key_named, given]
    rfl
  rw [Signer.sign, block]
  exact ⟨_, rfl⟩

namespace Decoder

/-! ### What was decoded is signed again -/

theorem Framed.accepts_of_mem {d : Decoder} {text : List Char} {assertions : List Assertion}
    (framed : d.Framed text assertions) {a : Assertion} (mem : a ∈ assertions) :
    ∃ block signature, d.Accepts block signature a := by
  induction framed with
  | done => cases mem
  | more _ accepted _ _ _ ih =>
    rcases List.mem_cons.1 mem with rfl | mem
    · exact ⟨_, _, accepted⟩
    · exact ih mem

/-- What one call signs is decoded as one assertion. -/
theorem decode_result {d : Decoder} {c : SigningCall} {t : SignedText}
    (made : c.result d.scheme = .ok t)
    (trusted : d.trusted.get? (c.signer d.scheme).signKeyId =
      some { authorityId := c.authorityId, key := d.scheme.publicKey c.seed })
    (correct : ∀ message,
      d.scheme.verify (d.scheme.publicKey c.seed) message (d.scheme.sign c.seed message) = true)
    (readable : c.Readable) :
    ∃ a, d.decode (Utf8.encode t.text) = .ok [a] ∧ ∀ name value,
      a.headers.get? name = some value ↔ (name, value) ∈ c.entries d.scheme := by
  obtain ⟨verified_iff, verified_as⟩ := verify_result made trusted correct
  obtain ⟨a, verified⟩ := verified_iff.2 readable
  have plain : ∀ u ∈ [t], ∃ entries, u.Plain entries := by
    intro u hu
    rw [List.mem_singleton.1 hu]
    exact ⟨_, (SigningCall.result_eq_ok made).1⟩
  have decoded := (@decodeText_join d _ plain _).2 (.cons verified .nil)
  rw [← decode_join plain] at decoded
  exact ⟨a, decoded, verified_as a verified⟩

/-- The call that signs an assertion again. -/
def resigning (s : Signer) (a : Assertion) (headers : List (String × HeaderValue)) :
    SigningCall where
  authorityId := s.authorityId
  seed := s.seed
  typeName := a.typeName
  headers := headers

theorem mem_entries_resigning {s : Signer} {a : Assertion} {headers : List (String × HeaderValue)}
    (order : headers.Perm a.givenHeaders) (name : String) (value : HeaderValue) :
    (name, value) ∈ (resigning s a headers).entries s.scheme ↔
      (a.headersBy s).get? name = some value := by
  have given : (name, value) ∈ headers ↔ a.headers.get? name = some value ∧
      name ∉ Signer.reserved := order.mem_iff.trans Assertion.mem_givenHeaders
  have typed := a.typeName_eq
  have keys_differ : authorityHeader ≠ signKeyHeader := by decide
  have type_differs : typeHeader ≠ signKeyHeader ∧ typeHeader ≠ authorityHeader := by decide
  have key_name : ((resigning s a headers).signer s.scheme).signKeyId = s.signKeyId := rfl
  rw [SigningCall.entries, key_name, Assertion.headersBy, Dictionary.get?_insert,
    Dictionary.get?_insert]
  simp only [List.mem_cons, Prod.mk.injEq, resigning, given, Signer.reserved, List.not_mem_nil,
    or_false, not_or]
  by_cases key : name = signKeyHeader
  · subst key
    simp [keys_differ.symm, type_differs.1.symm, eq_comm]
  by_cases authority : name = authorityHeader
  · subst authority
    simp [keys_differ, type_differs.2.symm, eq_comm]
  by_cases type : name = typeHeader
  · subst type
    simp [type_differs, typed, eq_comm]
  · simp [key, authority, type]

/-- What was decoded can be signed by another authority, with its headers in any order, and is
decoded as it was but for the authority and the key. -/
theorem decode_resigned {source target : Decoder} {stream : Octets} {assertions : List Assertion}
    {a : Assertion} {s : Signer} {headers : List (String × HeaderValue)}
    (decoded : source.decode stream = .ok assertions) (mem : a ∈ assertions)
    (order : headers.Perm a.givenHeaders) (authority_ne : s.authorityId ≠ "")
    (one_line : '\n' ∉ s.authorityId.toList) (scheme_eq : s.scheme = target.scheme)
    (named : s.scheme.keyId = SignatureScheme.ed25519.keyId)
    (trusted : target.trusted.get? s.signKeyId =
      some { authorityId := s.authorityId, key := s.publicKey })
    (correct : ∀ message,
      s.scheme.verify s.publicKey message (s.scheme.sign s.seed message) = true) :
    ∃ t b, s.sign a.typeName headers = .ok t ∧ target.decode (Utf8.encode t.text) = .ok [b] ∧
      b.typeName = a.typeName ∧ b.headers = a.headersBy s := by
  obtain ⟨_, _, _, _, framed⟩ := reads_of_decode decoded
  obtain ⟨_, _, accepted⟩ := framed.accepts_of_mem mem
  have key_line : '\n' ∉ s.signKeyId.toList := by
    rw [Signer.signKeyId, named]
    exact SignatureScheme.newline_not_mem_keyId _
  have listed : ∀ name value, (name, value) ∈ headers →
      a.headers.get? name = some value ∧ name ∉ Signer.reserved :=
    fun name value hm => Assertion.mem_givenHeaders.1 (order.mem_iff.1 hm)
  obtain ⟨t, made⟩ := Signer.sign_eq_ok
    (write_of_parse accepted.headers_eq a.typeName_eq) one_line key_line
    (fun name value hm => (listed name value hm).2)
    (fun name value hm => write_of_parse accepted.headers_eq (listed name value hm).1)
  have nodup : (headers.map (·.1)).Nodup := (order.map _).nodup_iff.2 a.givenHeaders_nodup
  obtain ⟨b, decoded, headers_iff⟩ := @decode_result target (resigning s a headers) t
    (scheme_eq ▸ made) (scheme_eq ▸ trusted) (scheme_eq ▸ correct)
    ⟨accepted.typeName_ne, authority_ne, nodup⟩
  have headers_eq : b.headers = a.headersBy s := by
    apply Dictionary.eq_of_get?
    intro name
    apply Option.ext
    intro value
    rw [headers_iff, ← scheme_eq, mem_entries_resigning order]
  have typed := b.typeName_eq
  rw [headers_eq, a.get?_headersBy_type] at typed
  have type_eq : a.typeName = b.typeName := by simpa using typed
  exact ⟨t, b, made, decoded, type_eq.symm, headers_eq⟩

/-! ### A block that no signer writes -/

/-- The name of the key of the seed of thirty-two ones. -/
def looseKeyId : String := "83561adb398fd87f8e7ed8331bff2fcb945733cc3012879cb9fab07928667062"

/-- Lines with values right after the colon, a text of one line on its own line and a text of one
empty line. -/
def looseLines : List (List Char) :=
  List.map String.toList ["type:model", "authority-id:acme", "sign-key-id: " ++ looseKeyId, "note:",
    "  -not a list", "batch:", "  ", "features:", "  - gps"]

/-- The same headers as another authority writes them. -/
def resignedLines : List (List Char) :=
  List.map String.toList ["type: model", "authority-id: globex",
    "sign-key-id: 1eed29b1654fbca94617004d7969dfc4652b1f30a7a8b771c34800155483380b",
    "note: -not a list", "features:", "  - gps", "batch:"]

/-- The Ed25519 signatures of the two blocks, each under its own seed. -/
def looseSignature (message : Octets) : Octets :=
  Octets.ofNat 64 <|
    if message = Utf8.encode (Lines.join looseLines) then
      0x034c6b28861d27eb1159abd718e5c9e87b3440bf233ee5751fe8821f648ad0ed * 2 ^ 256 +
        0x4c09a8993c3223ba27732d9af790fd14217a40ec15c138b6d58480cd7c4cff02
    else if message = Utf8.encode (Lines.join resignedLines) then
      0x4d9904d039830e2d3c687624a2eb12bdd96dc35a69c73f77003e35f0ed3d497a * 2 ^ 256 +
        0x5cb180d63f578e66a7341b7efe949d49546e432bac7f6b5f8dbdceb283b4bd0d
    else 0

/-- The scheme of the service, with the signatures of the two blocks in a table. -/
def looseScheme : SignatureScheme :=
  { SignatureScheme.ed25519 with
    sign := fun _ message => looseSignature message
    verify := fun _ message signature => signature = looseSignature message
    length_sign := fun _ _ => Octets.length_ofNat _ _ }

theorem verify_looseScheme (key seed message : Octets) :
    looseScheme.verify key message (looseScheme.sign seed message) = true :=
  decide_eq_true rfl

/-- The decoder that trusts the key of the first block. -/
def looseDecoder : Decoder where
  scheme := looseScheme
  trusted := Dictionary.empty.insert looseKeyId
    { authorityId := "acme"
      key := Octets.ofNat 32 0x8a88e3dd7409f195fd52db2d3cba5d72ca6709bf1d94121bf3748801b40f6f5c }

/-- The first block, signed. -/
def looseText : SignedText where
  block := Lines.join looseLines
  signature :=
    Base64.encode (looseScheme.sign (List.replicate 32 1) (Utf8.encode (Lines.join looseLines)))

/-- The assertion of the first block. -/
def looseAssertion : Assertion where
  typeName := "model"
  headers := Dictionary.ofList [("type", .text "model"), ("authority-id", .text "acme"),
    ("sign-key-id", .text looseKeyId), ("note", .text "-not a list"), ("batch", .text ""),
    ("features", .list ["gps"])]
  typeName_eq := by decide +kernel

theorem decode_looseText :
    looseDecoder.decode (Utf8.encode looseText.text) = .ok [looseAssertion] := by
  have accepted : looseDecoder.Accepts looseText.block looseText.signature looseAssertion :=
    ⟨by decide +kernel, by decide, "acme", looseKeyId, _, _, by decide +kernel, by decide,
      by decide +kernel, by decide, rfl, writtenAs_encode (looseScheme.length_sign _ _),
      verify_looseScheme _ _ _⟩
  have verified : looseDecoder.verify (Lines.join looseLines) looseText.signature =
      .ok looseAssertion := verify_eq_ok_iff.2 accepted
  have text_eq : looseText.text =
      Lines.join looseLines ++ '\n' :: '\n' :: (looseText.signature ++ ['\n']) := by
    rw [SignedText.text, looseText]
    simp
  have start : looseText.text.head? ≠ some '\n' := by
    have first : (Lines.join looseLines).head? = some 't' := by decide +kernel
    simp [text_eq, first]
  have one_line : '\n' ∉ looseText.signature := newline_not_mem_encode _
  have lines : ∀ line ∈ looseLines, '\n' ∉ line ∧ line ≠ [] := by decide +kernel
  rw [decode, Utf8.decode?_encode]
  dsimp only
  rw [Lines.dropNewlines_of_head? start, text_eq,
    decodeText_lines (by decide) lines (by decide +kernel),
    splitSignature_newline one_line, verify_append_newline, verified]
  rw [decodeText]
  rfl

/-- The second authority. -/
def secondSigner : Signer where
  scheme := looseScheme
  authorityId := "globex"
  seed := List.replicate 32 2

theorem decode_resigned_loose : ∃ t b,
    secondSigner.sign "model" looseAssertion.givenHeaders.reverse = .ok t ∧
      ((Decoder.empty looseScheme).trust "globex" secondSigner.publicKey).decode
        (Utf8.encode t.text) = .ok [b] ∧
      b.typeName = "model" ∧ b.headers = looseAssertion.headersBy secondSigner := by
  have trusted : ((Decoder.empty looseScheme).trust "globex" secondSigner.publicKey).trusted.get?
      secondSigner.signKeyId =
        some { authorityId := "globex", key := secondSigner.publicKey } := by
    rw [Decoder.trust, Dictionary.get?_insert]
    exact if_pos rfl
  have authority_ne : secondSigner.authorityId ≠ "" := by decide
  have one_line : '\n' ∉ secondSigner.authorityId.toList := by decide
  have correct : ∀ message, secondSigner.scheme.verify secondSigner.publicKey message
      (secondSigner.scheme.sign secondSigner.seed message) = true :=
    fun message => verify_looseScheme _ _ message
  have named : secondSigner.scheme.keyId = SignatureScheme.ed25519.keyId := rfl
  exact @decode_resigned looseDecoder _ _ _ looseAssertion secondSigner _ decode_looseText
    (List.mem_singleton.2 rfl) (List.reverse_perm _) authority_ne one_line rfl named trusted correct

end Decoder

end FleetIdentity
