import FleetIdentity.Proofs.Assertion.Verification
import FleetIdentity.Proofs.Encoding.Hex
import Mathlib.Data.Finset.Card
import Mathlib.Data.Finset.Image

/-!
# What a list of configured keys trusts

A list is taken if each of its keys can be used, and otherwise the first one that cannot be is
named. Of several entries with one key the last counts: the key may sign for that authority and for
no other, although an earlier entry says so.

Keys are kept by their names, which are digests. That different keys have different names is
assumed of the keys that a statement is about, and only where it is needed.
-/

namespace FleetIdentity

namespace TrustedKey

/-- The octets that the digits of the key stand for. -/
def octets? (k : TrustedKey) : Option Octets :=
  Hex.decode? k.publicKeyHex.toList

/-- The key is written as sixty-four digits of either case. -/
def IsWritten (k : TrustedKey) : Prop :=
  k.publicKeyHex.toList.length = 64 ∧ ∀ c ∈ k.publicKeyHex.toList, Hex.IsDigit c

instance (k : TrustedKey) : Decidable k.IsWritten :=
  inferInstanceAs (Decidable (_ ∧ _))

/-- The key is written in full, and its octets are a public key. -/
def IsUsable (scheme : SignatureScheme) (k : TrustedKey) : Prop :=
  k.IsWritten ∧ ∃ key, k.octets? = some key ∧ scheme.isPublicKey key = true

/-- What is said about a key that cannot be used; it names the authority. -/
def refusal (k : TrustedKey) : String :=
  if k.IsWritten then
    s!"trusted key for `{k.authorityId}` is not an Ed25519 key: no point of the curve"
  else s!"trusted key for `{k.authorityId}` must be 32 hex-encoded bytes"

/-- What the entry says about the key with a name. -/
def authority? (scheme : SignatureScheme) (keyId : String) (k : TrustedKey) :
    Option TrustedAuthority :=
  k.octets?.bind fun key =>
    if scheme.keyId key = keyId then some { authorityId := k.authorityId, key } else none

theorem isWritten_iff {k : TrustedKey} :
    k.IsWritten ↔ ∃ key, k.octets? = some key ∧ key.length = 32 := by
  constructor
  · rintro ⟨length, digits⟩
    obtain ⟨key, read⟩ := Hex.exists_decode?_iff.2 ⟨by rw [length], digits⟩
    have := Hex.length_of_decode? read
    exact ⟨key, read, by omega⟩
  · rintro ⟨key, read, length⟩
    have := Hex.length_of_decode? read
    exact ⟨by omega, (Hex.exists_decode?_iff.1 ⟨key, read⟩).2⟩

theorem authority?_eq_some_iff {scheme : SignatureScheme} {keyId : String} {k : TrustedKey}
    {authority : TrustedAuthority} :
    k.authority? scheme keyId = some authority ↔ k.octets? = some authority.key ∧
      scheme.keyId authority.key = keyId ∧ k.authorityId = authority.authorityId := by
  rw [authority?, Option.bind_eq_some_iff]
  constructor
  · rintro ⟨key, read, h⟩
    split at h
    · next named =>
      cases h
      exact ⟨read, named, rfl⟩
    · cases h
  · rintro ⟨read, named, authority_eq⟩
    exact ⟨authority.key, read, by rw [if_pos named, authority_eq]⟩

end TrustedKey

namespace Decoder

variable {scheme : SignatureScheme} {d d' : Decoder} {keys : List TrustedKey}

/-! ### One entry -/

theorem keyOf_eq_ok_iff {k : TrustedKey} {key : Octets} :
    keyOf scheme k = .ok key ↔
      k.octets? = some key ∧ key.length = 32 ∧ scheme.isPublicKey key = true := by
  unfold keyOf TrustedKey.octets?
  split
  · next unread => simp [unread]
  · next found read =>
    rw [read]
    split
    · next short =>
      constructor
      · intro h
        cases h
      · rintro ⟨same, length, _⟩
        cases same
        exact absurd length short
    · next length =>
      split
      · next point =>
        constructor
        · intro h
          cases h
          exact ⟨rfl, not_not.1 length, point⟩
        · rintro ⟨same, _, _⟩
          cases same
          rfl
      · next no_point =>
        constructor
        · intro h
          cases h
        · rintro ⟨same, _, point⟩
          cases same
          exact absurd point no_point

theorem exists_keyOf_iff {k : TrustedKey} :
    (∃ key, keyOf scheme k = .ok key) ↔ k.IsUsable scheme := by
  simp only [keyOf_eq_ok_iff]
  constructor
  · rintro ⟨key, read, length, point⟩
    exact ⟨TrustedKey.isWritten_iff.2 ⟨key, read, length⟩, key, read, point⟩
  · rintro ⟨written, key, read, point⟩
    obtain ⟨other, read', length⟩ := TrustedKey.isWritten_iff.1 written
    rw [read] at read'
    cases read'
    exact ⟨key, read, length, point⟩

/-- A key that is not taken cannot be used, and the refusal says which of the two checks failed. -/
theorem keyOf_error {k : TrustedKey} {e : IdentityError} (h : keyOf scheme k = .error e) :
    ¬ k.IsUsable scheme ∧ e = .validation k.refusal := by
  refine ⟨?_, ?_⟩
  · rw [← exists_keyOf_iff, h]
    rintro ⟨_, h⟩
    cases h
  · unfold TrustedKey.refusal
    simp only [TrustedKey.isWritten_iff]
    unfold keyOf at h
    unfold TrustedKey.octets?
    split at h
    · next unread =>
      cases h
      rw [if_neg (by simp [unread])]
    · next found read =>
      rw [read]
      split at h
      · next short =>
        cases h
        rw [if_neg (by simpa using short)]
      · next length =>
        split at h
        · cases h
        · cases h
          rw [if_pos ⟨found, rfl, not_not.1 length⟩]

/-! ### The entries in their order -/

theorem trustAll_cons {k : TrustedKey} {key : Octets} (h : keyOf d.scheme k = .ok key) :
    d.trustAll (k :: keys) = (d.trust k.authorityId key).trustAll keys := by
  rw [trustAll, h]
  rfl

theorem exists_trustAll_iff :
    (∃ d', d.trustAll keys = .ok d') ↔ ∀ k ∈ keys, k.IsUsable d.scheme := by
  induction keys generalizing d with
  | nil => simp [trustAll]
  | cons k keys ih =>
    rw [List.forall_mem_cons, ← exists_keyOf_iff]
    cases first : keyOf d.scheme k with
    | error e =>
      rw [trustAll, first]
      constructor
      · rintro ⟨_, h⟩
        cases h
      · rintro ⟨⟨_, h⟩, _⟩
        cases h
    | ok key =>
      rw [trustAll_cons first, ih]
      exact (and_iff_right ⟨key, rfl⟩).symm

theorem trustAll_error {e : IdentityError} (h : d.trustAll keys = .error e) :
    ∃ before k after, keys = before ++ k :: after ∧
      (∀ earlier ∈ before, earlier.IsUsable d.scheme) ∧ keyOf d.scheme k = .error e := by
  induction keys generalizing d with
  | nil => cases h
  | cons k keys ih =>
    cases first : keyOf d.scheme k with
    | error e' =>
      rw [trustAll, first] at h
      cases h
      exact ⟨[], k, keys, rfl, nofun, first⟩
    | ok key =>
      rw [trustAll_cons first] at h
      obtain ⟨before, bad, after, rfl, usable, refused⟩ := ih h
      refine ⟨k :: before, bad, after, rfl, ?_, refused⟩
      exact List.forall_mem_cons.2 ⟨exists_keyOf_iff.1 ⟨key, first⟩, usable⟩

/-- A key is trusted as the last entry says that is about it, or as it was before. -/
theorem get?_trustAll (h : d.trustAll keys = .ok d') (keyId : String) :
    d'.scheme = d.scheme ∧ d'.trusted.get? keyId =
      (keys.reverse.findSome? (TrustedKey.authority? d.scheme keyId)).or
        (d.trusted.get? keyId) := by
  induction keys generalizing d with
  | nil =>
    cases h
    exact ⟨rfl, rfl⟩
  | cons k keys ih =>
    cases first : keyOf d.scheme k with
    | error e =>
      rw [trustAll, first] at h
      cases h
    | ok key =>
      -- The decoder that the rest of the list starts from trusts this entry, so that what the rest
      -- says about the key comes first.
      rw [trustAll_cons first] at h
      obtain ⟨scheme_eq, get?_eq⟩ := ih h
      refine ⟨scheme_eq, ?_⟩
      have entry : k.authority? d.scheme keyId =
          if d.scheme.keyId key = keyId then some ⟨k.authorityId, key⟩ else none := by
        rw [TrustedKey.authority?, (keyOf_eq_ok_iff.1 first).1]
        rfl
      rw [get?_eq, List.reverse_cons, List.findSome?_append, List.findSome?_singleton,
        Option.or_assoc, entry]
      congr 1
      rw [trust, Dictionary.get?_insert]
      by_cases named : keyId = d.scheme.keyId key
      · rw [if_pos named, if_pos named.symm]
        rfl
      · rw [if_neg named, if_neg (Ne.symm named)]
        rfl

/-! ### The last entry counts -/

/-- The keys that the entries hold. -/
def octetsOf (keys : List TrustedKey) : List Octets :=
  keys.filterMap TrustedKey.octets?

/-- The last entry with the key is for the authority. -/
def LastFor (keys : List TrustedKey) (key : Octets) (authorityId : String) : Prop :=
  ∃ before k after, keys = before ++ k :: after ∧ k.octets? = some key ∧
    k.authorityId = authorityId ∧ ∀ later ∈ after, later.octets? ≠ some key

theorem findSome?_reverse_eq_some_iff {α β : Type} {f : α → Option β} {l : List α} {b : β} :
    l.reverse.findSome? f = some b ↔ ∃ before a after, l = before ++ a :: after ∧ f a = some b ∧
      ∀ x ∈ after, f x = none := by
  rw [List.findSome?_eq_some_iff]
  constructor
  · rintro ⟨after, a, before, split, found, silent⟩
    refine ⟨before.reverse, a, after.reverse, ?_, found, ?_⟩
    · rw [← List.reverse_reverse l, split]
      simp
    · intro x hx
      exact silent x (List.mem_reverse.1 hx)
  · rintro ⟨before, a, after, rfl, found, silent⟩
    refine ⟨after.reverse, a, before.reverse, by simp, found, ?_⟩
    intro x hx
    exact silent x (List.mem_reverse.1 hx)

section Empty

variable (h : (empty scheme).trustAll keys = .ok d)

include h

theorem get?_trusted (keyId : String) :
    d.trusted.get? keyId = keys.reverse.findSome? (TrustedKey.authority? scheme keyId) := by
  rw [(get?_trustAll h keyId).2]
  exact Option.or_none

/-- Under the name of a key, if no key of an entry has that name too, the key is trusted for the
authority of its last entry. -/
theorem get?_trusted_eq_some_iff {key : Octets} {authority : TrustedAuthority}
    (distinct : Set.InjOn scheme.keyId {listed | listed ∈ key :: octetsOf keys}) :
    d.trusted.get? (scheme.keyId key) = some authority ↔
      authority.key = key ∧ LastFor keys key authority.authorityId := by
  have unique : ∀ k ∈ keys, ∀ other, k.octets? = some other →
      scheme.keyId other = scheme.keyId key → other = key := by
    intro k mem other read named
    have listed : other ∈ octetsOf keys := List.mem_filterMap.2 ⟨k, mem, read⟩
    exact distinct (List.mem_cons_of_mem key listed) List.mem_cons_self named
  have silent : ∀ k ∈ keys, k.authority? scheme (scheme.keyId key) = none ↔
      k.octets? ≠ some key := by
    intro k mem
    rw [Option.eq_none_iff_forall_ne_some]
    constructor
    · intro none read
      exact none ⟨k.authorityId, key⟩ (TrustedKey.authority?_eq_some_iff.2 ⟨read, rfl, rfl⟩)
    · intro unread other found
      obtain ⟨read, named, _⟩ := TrustedKey.authority?_eq_some_iff.1 found
      exact unread (unique k mem _ read named ▸ read)
  rw [get?_trusted h, findSome?_reverse_eq_some_iff]
  constructor
  · rintro ⟨before, k, after, rfl, found, none⟩
    obtain ⟨read, named, authority_eq⟩ := TrustedKey.authority?_eq_some_iff.1 found
    have same : authority.key = key := unique k (by simp) _ read named
    refine ⟨same, before, k, after, rfl, same ▸ read, authority_eq, ?_⟩
    intro later mem
    exact (silent later (by simp [mem])).1 (none later mem)
  · rintro ⟨rfl, before, k, after, rfl, read, authority_eq, unread⟩
    refine ⟨before, k, after, rfl,
      TrustedKey.authority?_eq_some_iff.2 ⟨read, rfl, authority_eq⟩, ?_⟩
    intro later mem
    exact (silent later (by simp [mem])).2 (unread later mem)

theorem mem_trusted_iff {keyId : String} :
    keyId ∈ d.trusted.entries.map (·.1) ↔ ∃ key ∈ octetsOf keys, scheme.keyId key = keyId := by
  simp only [octetsOf, List.mem_map, Prod.exists, Dictionary.mem_entries_iff, get?_trusted h,
    exists_and_right, exists_eq_right, ← Option.isSome_iff_exists, List.findSome?_isSome_iff,
    List.mem_reverse, List.mem_filterMap]
  simp only [Option.isSome_iff_exists, TrustedKey.authority?_eq_some_iff]
  constructor
  · rintro ⟨k, mem, authority, read, named, _⟩
    exact ⟨authority.key, ⟨k, mem, read⟩, named⟩
  · rintro ⟨key, ⟨k, mem, read⟩, named⟩
    exact ⟨k, mem, ⟨k.authorityId, key⟩, read, named, rfl⟩

theorem trustedKeyCount_eq
    (distinct : Set.InjOn scheme.keyId {listed | listed ∈ octetsOf keys}) :
    d.trustedKeyCount = (octetsOf keys).toFinset.card := by
  have names : (d.trusted.entries.map (·.1)).toFinset =
      (octetsOf keys).toFinset.image scheme.keyId := by
    ext keyId
    rw [List.mem_toFinset, mem_trusted_iff h, Finset.mem_image]
    simp only [List.mem_toFinset]
  calc d.trustedKeyCount
      = (d.trusted.entries.map (·.1)).toFinset.card := by
        rw [List.toFinset_card_of_nodup d.trusted.keys_nodup, List.length_map]
        rfl
    _ = (octetsOf keys).toFinset.card := by
        rw [names]
        refine Finset.card_image_of_injOn ?_
        intro a ha b hb
        exact distinct (List.mem_toFinset.1 ha) (List.mem_toFinset.1 hb)

end Empty

/-! ### A list under Ed25519 -/

/-- A block that has all that an accepted one needs, apart from the trust in its key: it names the
authority and the digest of the key, and the written signature is good under the key. -/
structure SignedUnder (authorityId : String) (key : Octets) (headers : Headers)
    (block signature : List Char) : Prop where
  parse_eq : HeaderBlock.parse block = .ok headers
  typed : ∃ typeName, headers.get? typeHeader = some (.text typeName) ∧ typeName ≠ ""
  authority_eq : headers.get? authorityHeader = some (.text authorityId)
  signKey_eq : headers.get? signKeyHeader = some (.text (Hex.text (Blake3.digest key)))
  signed : ∃ octets, WrittenAs signature octets ∧
    Ed25519.verifyStrict key (Utf8.encode block) octets = true

/-- Different keys among these have different BLAKE3 digests. -/
def NoCollision (keys : List Octets) : Prop :=
  Set.InjOn Blake3.digest {key | key ∈ keys}

theorem NoCollision.keyId_injOn {listed : List Octets} (distinct : NoCollision listed) :
    Set.InjOn SignatureScheme.ed25519.keyId {key | key ∈ listed} :=
  Hex.text_injective.comp_injOn distinct

section Taken

variable (h : ofTrustedKeys .ed25519 keys = .ok d)

include h

theorem accepts_signedUnder_iff {authorityId : String} {key : Octets} {headers : Headers}
    {block signature : List Char} (authority_ne : authorityId ≠ "")
    (signed : SignedUnder authorityId key headers block signature)
    (distinct : NoCollision (key :: octetsOf keys)) :
    (∃ assertion, d.verify block signature = .ok assertion) ↔ LastFor keys key authorityId := by
  have scheme_eq : d.scheme = .ed25519 := (get?_trustAll h "").1
  have trusted_iff {authority : TrustedAuthority} :
      d.trusted.get? (Hex.text (Blake3.digest key)) = some authority ↔
        authority.key = key ∧ LastFor keys key authority.authorityId :=
    get?_trusted_eq_some_iff h distinct.keyId_injOn
  simp only [verify_eq_ok_iff]
  constructor
  · rintro ⟨assertion, parsed, -, authorityId', keyId, key', octets, named, -, key_named, -,
      trusted, -⟩
    have headers_eq : assertion.headers = headers :=
      Except.ok.inj (parsed.symm.trans signed.parse_eq)
    rw [headers_eq, signed.authority_eq] at named
    rw [headers_eq, signed.signKey_eq] at key_named
    cases named
    cases key_named
    exact (trusted_iff.1 trusted).2
  · intro last
    obtain ⟨typeName, typed, type_ne⟩ := signed.typed
    obtain ⟨octets, written, good⟩ := signed.signed
    refine ⟨⟨typeName, headers, typed⟩, signed.parse_eq, type_ne, authorityId, _, key, octets,
      signed.authority_eq, authority_ne, signed.signKey_eq,
      SignatureScheme.ed25519.keyId_ne_empty key, trusted_iff.2 ⟨rfl, last⟩, written, ?_⟩
    rw [scheme_eq]
    exact good

end Taken

/-- A list of keys is taken exactly if every one of them can be used, and otherwise the first that
cannot be is named. A list that is taken trusts a key for the authority of its last entry alone, and
counts each key once. -/
theorem ofTrustedKeys_exact (keys : List TrustedKey) :
    ((∃ d, ofTrustedKeys .ed25519 keys = .ok d) ↔ ∀ k ∈ keys, k.IsUsable .ed25519) ∧
    (∀ e, ofTrustedKeys .ed25519 keys = .error e → ∃ before k after, keys = before ++ k :: after ∧
      (∀ earlier ∈ before, earlier.IsUsable .ed25519) ∧ ¬ k.IsUsable .ed25519 ∧
      e = .validation k.refusal) ∧
    ∀ d, ofTrustedKeys .ed25519 keys = .ok d →
      (∀ authorityId key headers block signature, authorityId ≠ "" →
        SignedUnder authorityId key headers block signature →
        NoCollision (key :: octetsOf keys) →
        ((∃ assertion, d.verify block signature = .ok assertion) ↔
          LastFor keys key authorityId)) ∧
      (NoCollision (octetsOf keys) →
        d.trustedKeyCount = (octetsOf keys).toFinset.card) := by
  refine ⟨exists_trustAll_iff, ?_, ?_⟩
  · intro e h
    obtain ⟨before, k, after, split, usable, refused⟩ := trustAll_error h
    exact ⟨before, k, after, split, usable, keyOf_error refused⟩
  · intro d h
    refine ⟨?_, ?_⟩
    · intro authorityId key headers block signature authority_ne signed distinct
      exact accepts_signedUnder_iff h authority_ne signed distinct
    · intro distinct
      exact trustedKeyCount_eq h distinct.keyId_injOn

/-- One key for two authorities, in digits of either case. -/
def twiceKeys : List TrustedKey :=
  [⟨"acme", "8a88e3dd7409f195fd52db2d3cba5d72ca6709bf1d94121bf3748801b40f6f5c"⟩,
    ⟨"globex", "8A88E3DD7409F195FD52DB2D3CBA5D72CA6709BF1D94121BF3748801B40F6F5C"⟩]

/-- The key of both entries. -/
def twiceKey : Octets :=
  Octets.ofNat 32 0x8a88e3dd7409f195fd52db2d3cba5d72ca6709bf1d94121bf3748801b40f6f5c

/-- What the block signed for the second authority says. -/
def globexHeaders : Headers :=
  ((Dictionary.empty.insert typeHeader (.text "model")).insert authorityHeader
    (.text "globex")).insert signKeyHeader
      (.text "83561adb398fd87f8e7ed8331bff2fcb945733cc3012879cb9fab07928667062")

/-- The block signed for the second authority. -/
def globexBlock : List Char :=
  Lines.join <| [
    "type: model", "authority-id: globex",
    "sign-key-id: 83561adb398fd87f8e7ed8331bff2fcb945733cc3012879cb9fab07928667062"].map
      String.toList

/-- The octets of its signature. -/
def globexSignature : Octets :=
  Octets.ofNat 64 <|
    0x46122c4741ef463cda22d3b5cf330ac8ec056e06fdce190154b215551403072d * 2 ^ 256 +
      0xcfa9578d97a9afab04f40f07928a3b83e6017e3cdcbcea7bde38a51cc5151302

theorem octets?_twiceKeys : ∀ k ∈ twiceKeys, k.octets? = some twiceKey := by
  decide +kernel

theorem isUsable_twiceKeys : ∀ k ∈ twiceKeys, k.IsUsable .ed25519 := by
  have point : SignatureScheme.ed25519.isPublicKey twiceKey = true := by decide +kernel
  intro k mem
  have read := octets?_twiceKeys k mem
  exact ⟨TrustedKey.isWritten_iff.2 ⟨twiceKey, read, by decide +kernel⟩, twiceKey, read, point⟩

theorem signedUnder_globex :
    SignedUnder "globex" twiceKey globexHeaders globexBlock (Base64.encode globexSignature) where
  parse_eq := by decide +kernel
  typed := ⟨"model", by decide +kernel, by decide⟩
  authority_eq := by decide +kernel
  signKey_eq := by decide +kernel
  signed := ⟨globexSignature, writtenAs_encode (Octets.length_ofNat _ _), by decide +kernel⟩

/-- The later entry takes the key away from the authority of the earlier one, and the key counts
once. -/
theorem ofTrustedKeys_exact_twice :
    (∀ k ∈ twiceKeys, k.IsUsable .ed25519) ∧
    SignedUnder "globex" twiceKey globexHeaders globexBlock (Base64.encode globexSignature) ∧
    ∃ d, ofTrustedKeys .ed25519 twiceKeys = .ok d ∧ d.trustedKeyCount = 1 ∧
      ∃ assertion, d.verify globexBlock (Base64.encode globexSignature) = .ok assertion := by
  obtain ⟨taken_iff, -, trusts⟩ := ofTrustedKeys_exact twiceKeys
  obtain ⟨d, taken⟩ := taken_iff.2 isUsable_twiceKeys
  obtain ⟨accepted_iff, count⟩ := trusts d taken
  have listed : octetsOf twiceKeys = [twiceKey, twiceKey] := by decide +kernel
  have distinct : NoCollision (twiceKey :: octetsOf twiceKeys) := by
    rw [listed]
    intro a ha b hb _
    have all : ∀ key ∈ [twiceKey, twiceKey, twiceKey], key = twiceKey := by simp
    rw [all a ha, all b hb]
  have fewer : NoCollision (octetsOf twiceKeys) :=
    distinct.mono fun _ mem => List.mem_cons_of_mem _ mem
  have last : LastFor twiceKeys twiceKey "globex" :=
    ⟨[twiceKeys[0]], twiceKeys[1], [], rfl, octets?_twiceKeys _ (by decide), rfl, nofun⟩
  refine ⟨isUsable_twiceKeys, signedUnder_globex, d, taken, ?_, ?_⟩
  · rw [count fewer, listed]
    simp
  · exact (accepted_iff _ _ _ _ _ (by decide) signedUnder_globex distinct).2 last

end Decoder

end FleetIdentity
