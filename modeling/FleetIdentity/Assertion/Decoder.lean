import FleetIdentity.Assertion.Basic
import FleetIdentity.Assertion.Fault
import FleetIdentity.Assertion.Scheme
import FleetIdentity.Assertion.TrustedKey
import FleetIdentity.Encoding.Base64
import FleetIdentity.Text.Blank
import FleetIdentity.Text.Utf8

/-!
Assertion streams: reading and verifying.

A stream is a sequence of header blocks, each followed by a blank line and a signature of the exact
octets of the block. A block ends at the first blank line, a signature at the next one or at the end
of the stream; newlines between a signature and the next block do not count, and white space after
the last signature does not either.
-/

namespace FleetIdentity

/-- An authority and the public key that may sign for it. -/
structure TrustedAuthority where
  authorityId : String
  key : Octets
  deriving DecidableEq

/-- The trusted authorities by the names of their keys, under a signature scheme. -/
structure Decoder where
  scheme : SignatureScheme
  trusted : Dictionary TrustedAuthority

namespace Decoder

/-- The decoder that trusts nobody. -/
def empty (scheme : SignatureScheme) : Decoder :=
  { scheme, trusted := Dictionary.empty }

/-- Trusts a key to sign for an authority, and for no other. -/
def trust (d : Decoder) (authorityId : String) (key : Octets) : Decoder :=
  { d with trusted := d.trusted.insert (d.scheme.keyId key) { authorityId, key } }

/-- The public key that a configured key holds. -/
def keyOf (scheme : SignatureScheme) (k : TrustedKey) : Except IdentityError Octets :=
  match Hex.decode? k.publicKeyHex.toList with
  | none => .error (.validation s!"trusted key for `{k.authorityId}` must be 32 hex-encoded bytes")
  | some key =>
    if key.length ≠ 32 then
      .error (.validation s!"trusted key for `{k.authorityId}` must be 32 hex-encoded bytes")
    else if scheme.isPublicKey key then .ok key
    else
      .error (.validation
        s!"trusted key for `{k.authorityId}` is not an Ed25519 key: no point of the curve")

/-- Adds configured keys in their order; a key that occurs twice counts for the later authority. -/
def trustAll (d : Decoder) : List TrustedKey → Except IdentityError Decoder
  | [] => .ok d
  | k :: rest => do
    let key ← keyOf d.scheme k
    (d.trust k.authorityId key).trustAll rest

/-- The decoder that trusts the configured keys. -/
def ofTrustedKeys (scheme : SignatureScheme) (keys : List TrustedKey) :
    Except IdentityError Decoder :=
  (empty scheme).trustAll keys

/-- The number of trusted keys. -/
def trustedKeyCount (d : Decoder) : Nat :=
  d.trusted.size

/-- The text of a header that must be there and not be empty. -/
def presentText (headers : Headers) (name : String) : Except AssertionFault String :=
  match headers.get? name with
  | some (.text text) => if text.isEmpty then .error (.headerRequired name) else .ok text
  | _ => .error (.headerRequired name)

/-- The octets of a written signature. -/
def signatureOctets (signature : List Char) : Except AssertionFault Octets :=
  let symbols := signature.filter fun c => !isBlankChar c
  if symbols.isEmpty then .error .notSigned
  else match Base64.decode? symbols with
    | none => .error .notBase64
    | some octets => if octets.length = 64 then .ok octets else .error .signatureLength

/-- The authority that a block names, if the key that it names is trusted to sign for it. -/
def authorityOf (d : Decoder) (headers : Headers) : Except AssertionFault TrustedAuthority := do
  let authorityId ← presentText headers authorityHeader
  let keyId ← presentText headers signKeyHeader
  match d.trusted.get? keyId with
  | none => .error (.untrustedKey keyId)
  | some authority =>
    if authority.authorityId = authorityId then .ok authority
    else .error (.foreignKey keyId authorityId)

/-- The headers of a block whose signature is good. -/
def verifiedHeaders (d : Decoder) (block signature : List Char) :
    Except AssertionFault Headers := do
  let headers ← (HeaderBlock.parse block).mapError .block
  let _ ← presentText headers typeHeader
  let authority ← d.authorityOf headers
  let octets ← signatureOctets signature
  if d.scheme.verify authority.key (Utf8.encode block) octets then .ok headers
  else .error (.badSignature authority.authorityId)

/-- The assertion of a block whose signature is good. -/
def verify (d : Decoder) (block signature : List Char) : Except IdentityError Assertion := do
  let headers ← (d.verifiedHeaders block signature).mapError AssertionFault.toError
  Assertion.ofHeaders headers

/-- The signature section at the front of a text, and the text after the blank line that ends it. -/
def splitSignature (text : List Char) : List Char × List Char :=
  (Lines.splitBlank? text).getD (text, [])

theorem length_splitSignature_le (text : List Char) :
    (splitSignature text).2.length ≤ text.length := by
  unfold splitSignature
  match h : Lines.splitBlank? text with
  | none => simp
  | some (before, after) =>
    have := Lines.length_of_splitBlank? h
    simp only [Option.getD_some]
    omega

/-- The assertions of a text that does not start with a newline. -/
def decodeText (d : Decoder) (text : List Char) : Except IdentityError (List Assertion) :=
  if text.all isBlankChar then .ok []
  else
    match _found : Lines.splitBlank? text with
    | none => .error AssertionFault.notSigned.toError
    | some (block, after) => do
      let assertion ← d.verify block (splitSignature after).1
      let rest ← d.decodeText (Lines.dropNewlines (splitSignature after).2)
      return assertion :: rest
termination_by text.length
decreasing_by
  have h₁ := Lines.length_of_splitBlank? _found
  have h₂ := length_splitSignature_le after
  have h₃ := Lines.length_dropNewlines_le (splitSignature after).2
  omega

/-- The verified assertions of a stream. -/
def decode (d : Decoder) (stream : Octets) : Except IdentityError (List Assertion) :=
  match Utf8.decode? stream with
  | none => .error AssertionFault.notUtf8.toError
  | some text => d.decodeText (Lines.dropNewlines text)

/-- The assertions of a stream that must hold exactly two. -/
def decodePair (d : Decoder) (stream : Octets) : Except IdentityError (Assertion × Assertion) := do
  match ← d.decode stream with
  | [first, second] => .ok (first, second)
  | assertions => .error (AssertionFault.notAPair assertions.length).toError

end Decoder

end FleetIdentity
