import FleetIdentity.Assertion.Fault
import FleetIdentity.Assertion.Basic
import FleetIdentity.Assertion.Scheme
import FleetIdentity.Encoding.Base64
import FleetIdentity.Text.Utf8

/-!
Writing and signing assertions.

The signer writes the type, its authority and the name of its key in front of the given headers and
signs the octets of the block. A value that the line format cannot carry is refused.
-/

namespace FleetIdentity

namespace HeaderBlock

/-- The lines of a header. -/
def write (name : String) (value : HeaderValue) : Except AssertionFault (List (List Char)) :=
  if isName name.toList then
    let start := name.toList ++ [':']
    match value with
    | .text text =>
      if text.toList.contains '\n' then
        let lines := Lines.split text.toList
        if lines.any (['-', ' '].isPrefixOf ·) then .error (.dashLine name)
        else .ok (start :: lines.map ([' ', ' '] ++ ·))
      else if text.isEmpty then .ok [start]
      else .ok [start ++ ' ' :: text.toList]
    | .list items =>
      if items.isEmpty then .error (.emptyList name)
      else if items.any (·.toList.contains '\n') then .error (.itemSpansLines name)
      else .ok (start :: items.map fun item => [' ', ' ', '-', ' '] ++ item.toList)
  else .error (.block (.invalidName name))

end HeaderBlock

/-- A signature of a block in its written form. -/
structure SignedText where
  block : List Char
  signature : List Char

/-- The block, a blank line, the signature and a newline. -/
def SignedText.text (t : SignedText) : List Char :=
  t.block ++ '\n' :: '\n' :: t.signature ++ ['\n']

/-- An authority with the seed of its key. -/
structure Signer where
  scheme : SignatureScheme
  authorityId : String
  seed : Octets

namespace Signer

/-- The public key of the signer. -/
def publicKey (s : Signer) : Octets :=
  s.scheme.publicKey s.seed

/-- The name of the signer's key. -/
def signKeyId (s : Signer) : String :=
  s.scheme.keyId s.publicKey

/-- The headers that only the signer sets. -/
def reserved : List String :=
  [typeHeader, authorityHeader, signKeyHeader]

/-- The lines of the headers that the caller gives. -/
def givenLines : List (String × HeaderValue) → Except AssertionFault (List (List Char))
  | [] => .ok []
  | (name, value) :: rest => do
    if reserved.contains name then throw (.reservedHeader name)
    let lines ← HeaderBlock.write name value
    let more ← givenLines rest
    return lines ++ more

/-- The block that the signer signs. -/
def block (s : Signer) (typeName : String) (headers : List (String × HeaderValue)) :
    Except AssertionFault (List Char) := do
  let typeLines ← HeaderBlock.write typeHeader (.text typeName)
  let authorityLines ← HeaderBlock.write authorityHeader (.text s.authorityId)
  let keyLines ← HeaderBlock.write signKeyHeader (.text s.signKeyId)
  let lines ← givenLines headers
  return Lines.join (typeLines ++ authorityLines ++ keyLines ++ lines)

/-- The signed assertion with a type and headers. -/
def sign (s : Signer) (typeName : String) (headers : List (String × HeaderValue)) :
    Except IdentityError SignedText := do
  let block ← (s.block typeName headers).mapError AssertionFault.toError
  let octets := s.scheme.sign s.seed (Utf8.encode block)
  return { block, signature := Base64.encode octets }

end Signer

end FleetIdentity
