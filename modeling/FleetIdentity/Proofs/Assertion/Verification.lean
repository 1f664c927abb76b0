import FleetIdentity.Assertion.Decoder
import FleetIdentity.Proofs.Encoding.Base64
import FleetIdentity.Proofs.Except

/-!
# What the verification of one block says

A block and a written signature are accepted exactly when `Accepts` holds: everything that is
checked, with no order of checks left in it. A refusal is always of the kind `invalidAssertion`; the
other kinds that the headers of an assertion could fail with are ruled out by the checks before.
-/

namespace FleetIdentity.Decoder

/-- The octets of a signature in the written form: base64, with white space anywhere. -/
def WrittenAs (signature : List Char) (octets : Octets) : Prop :=
  signature.filter (fun c => !isBlankChar c) = Base64.encode octets ∧ octets.length = 64

/-- A block vouched for by a trusted authority: the key that it names is trusted for the authority
that it names, and the signature is that key's signature of exactly the octets of the block. -/
def Vouched (d : Decoder) (headers : Headers) (block signature : List Char) : Prop :=
  ∃ authorityId keyId key octets,
    headers.get? authorityHeader = some (.text authorityId) ∧ authorityId ≠ "" ∧
    headers.get? signKeyHeader = some (.text keyId) ∧ keyId ≠ "" ∧
    d.trusted.get? keyId = some { authorityId, key } ∧
    WrittenAs signature octets ∧
    d.scheme.verify key (Utf8.encode block) octets = true

/-- An assertion is what a block with a signature stands for. -/
structure Accepts (d : Decoder) (block signature : List Char) (a : Assertion) : Prop where
  headers_eq : HeaderBlock.parse block = .ok a.headers
  typeName_ne : a.typeName ≠ ""
  vouched : d.Vouched a.headers block signature

theorem writtenAs_encode {octets : Octets} (len : octets.length = 64) :
    WrittenAs (Base64.encode octets) octets := by
  refine ⟨List.filter_eq_self.2 ?_, len⟩
  intro c hc
  rw [Base64.isBlankChar_of_mem_encode hc]
  rfl

theorem presentText_eq_ok_iff {headers : Headers} {name text : String} :
    presentText headers name = .ok text ↔ headers.get? name = some (.text text) ∧ text ≠ "" := by
  unfold presentText
  split
  · next found eq =>
    rw [eq]
    split
    · next empty =>
      constructor
      · intro h
        cases h
      · rintro ⟨h, ne⟩
        obtain rfl : found = text := by simpa using h
        exact absurd (String.isEmpty_iff.1 empty) ne
    · next present =>
      have ne : found ≠ "" := fun e => present (String.isEmpty_iff.2 e)
      constructor
      · intro h
        cases h
        exact ⟨rfl, ne⟩
      · rintro ⟨h, _⟩
        obtain rfl : found = text := by simpa using h
        rfl
  · next other =>
    constructor
    · intro h
      cases h
    · rintro ⟨h, _⟩
      exact absurd h (other text)

theorem signatureOctets_eq_ok_iff {signature : List Char} {octets : Octets} :
    signatureOctets signature = .ok octets ↔ WrittenAs signature octets := by
  unfold signatureOctets WrittenAs
  generalize signature.filter (fun c => !isBlankChar c) = symbols
  constructor
  · intro h
    dsimp only at h
    split at h
    · cases h
    split at h
    · cases h
    next found read =>
      split at h
      · next len =>
        cases h
        exact ⟨Base64.encode_of_decode? read, len⟩
      · cases h
  · rintro ⟨rfl, len⟩
    have some_octet : octets ≠ [] := by
      rintro rfl
      cases len
    have some_symbol : (Base64.encode octets).isEmpty = false := by
      rw [List.isEmpty_eq_false_iff]
      exact Base64.encode_ne_nil some_octet
    simp only [some_symbol, Bool.false_eq_true, if_false, Base64.decode?_encode, len, if_true]

theorem authorityOf_eq_ok_iff {d : Decoder} {headers : Headers} {authority : TrustedAuthority} :
    d.authorityOf headers = .ok authority ↔ ∃ keyId,
      presentText headers authorityHeader = .ok authority.authorityId ∧
        presentText headers signKeyHeader = .ok keyId ∧ d.trusted.get? keyId = some authority := by
  simp only [authorityOf, bind_eq_ok_iff]
  constructor
  · rintro ⟨authorityId, named, keyId, key_named, h⟩
    split at h
    · cases h
    next found trusted =>
      split at h
      · next same =>
        cases h
        exact ⟨keyId, same ▸ named, key_named, trusted⟩
      · cases h
  · rintro ⟨keyId, named, key_named, trusted⟩
    refine ⟨authority.authorityId, named, keyId, key_named, ?_⟩
    rw [trusted]
    exact if_pos rfl

theorem verifiedHeaders_eq_ok_iff {d : Decoder} {block signature : List Char} {headers : Headers} :
    d.verifiedHeaders block signature = .ok headers ↔
      HeaderBlock.parse block = .ok headers ∧
        (∃ typeName, headers.get? typeHeader = some (.text typeName) ∧ typeName ≠ "") ∧
        d.Vouched headers block signature := by
  simp only [verifiedHeaders, bind_eq_ok_iff, mapError_eq_ok_iff, presentText_eq_ok_iff,
    authorityOf_eq_ok_iff, signatureOctets_eq_ok_iff]
  constructor
  · rintro ⟨found, parsed, typeName, typed, authority, ⟨keyId, named, key_named, trusted⟩, octets,
      written, h⟩
    split at h
    · next good =>
      cases h
      exact ⟨parsed, ⟨typeName, typed⟩, authority.authorityId, keyId, authority.key, octets,
        named.1, named.2, key_named.1, key_named.2, trusted, written, good⟩
    · cases h
  · rintro ⟨parsed, ⟨typeName, typed⟩, authorityId, keyId, key, octets, named, authority_ne,
      key_named, key_ne, trusted, written, good⟩
    refine ⟨headers, parsed, typeName, typed, { authorityId, key },
      ⟨keyId, ⟨named, authority_ne⟩, ⟨key_named, key_ne⟩, trusted⟩, octets, written, ?_⟩
    exact if_pos good

theorem ofHeaders_eq_ok_iff {headers : Headers} {a : Assertion} :
    Assertion.ofHeaders headers = .ok a ↔ a.headers = headers := by
  unfold Assertion.ofHeaders
  constructor
  · intro h
    split at h
    · cases h
      rfl
    · cases h
    · cases h
  · intro h
    subst h
    have typed := a.typeName_eq
    split
    · next typeName eq =>
      obtain rfl : typeName = a.typeName := by simpa [eq] using typed
      rfl
    · next items eq => simp [eq] at typed
    · next eq => simp [eq] at typed

/-- A block with a signature is accepted exactly if it stands for an assertion. -/
theorem verify_eq_ok_iff {d : Decoder} {block signature : List Char} {a : Assertion} :
    d.verify block signature = .ok a ↔ d.Accepts block signature a := by
  simp only [verify, bind_eq_ok_iff, mapError_eq_ok_iff, ofHeaders_eq_ok_iff,
    verifiedHeaders_eq_ok_iff]
  constructor
  · rintro ⟨headers, ⟨parsed, ⟨typeName, typed, ne⟩, vouched⟩, rfl⟩
    have same : typeName = a.typeName := by simpa [typed] using a.typeName_eq
    exact ⟨parsed, same ▸ ne, vouched⟩
  · rintro ⟨parsed, ne, vouched⟩
    exact ⟨a.headers, ⟨parsed, ⟨a.typeName, a.typeName_eq, ne⟩, vouched⟩, rfl⟩

/-- A refused block is an invalid assertion: once its headers are verified, their type is a text. -/
theorem verify_error {d : Decoder} {block signature : List Char} {e : IdentityError}
    (h : d.verify block signature = .error e) : ∃ text, e = .invalidAssertion text := by
  rw [verify, bind_eq_error_iff] at h
  rcases h with h | ⟨headers, verified, h⟩
  · obtain ⟨fault, _, rfl⟩ := mapError_eq_error_iff.1 h
    exact ⟨fault.message, rfl⟩
  · obtain ⟨_, ⟨typeName, typed, _⟩, _⟩ :=
      verifiedHeaders_eq_ok_iff.1 (mapError_eq_ok_iff.1 verified)
    have ok : Assertion.ofHeaders headers = .ok ⟨typeName, headers, typed⟩ :=
      ofHeaders_eq_ok_iff.2 rfl
    rw [ok] at h
    cases h

end FleetIdentity.Decoder
