import FleetIdentity.Crypto.Modular
import FleetIdentity.Pki.Error
import FleetIdentity.Pki.Pem
import FleetIdentity.Pki.SignatureSuite

/-!
Reading private keys.

A PKCS #8 structure holds a key of any kind, and the public half that comes with it must be the
one of the key. A PKCS #1 structure holds an RSA key; it comes in a block of strict form: no
headers, full lines of 64 symbols, nothing after it. RSA keys are held to limits on their numbers.
-/

namespace FleetIdentity

namespace KeyFile

open Asn1 (Strict.tagged? Strict.whole? Strict.unsigned? Strict.positive? Strict.bitString?
  Strict.expect?)

/-- The parts of a PKCS #8 structure: version, kind, key, and the public half. -/
structure Wrapped where
  version : Nat
  kind : Octets
  key : Octets
  publicKey : Option Octets

/-- The octets after attributes, which do not count. -/
def skipAttributes? (octets : Octets) : Option Octets :=
  if octets.head? = some 0xA0 then (Strict.expect? 0xA0 octets).map (·.2) else some octets

/-- The public half in a bit string that is all there is in an element. -/
def publicHalf? (octets : Octets) : Option (Octets × Octets) := do
  let (content, rest) ← Strict.expect? 0xA1 octets
  match ← Strict.bitString? Asn1.Tag.bitString.octet content with
  | (key, []) => some (key, rest)
  | _ => none

/-- Takes a PKCS #8 structure apart. -/
def unwrap? (der : Octets) : Option Wrapped := do
  let content ← Strict.whole? .sequence der
  let (version, rest) ← Strict.unsigned? content
  let (kind, rest) ← Strict.tagged? .sequence rest
  let (key, rest) ← Strict.tagged? .octetString rest
  let rest ← skipAttributes? rest
  if version = 0 then
    if rest.isEmpty then return { version, kind, key, publicKey := none } else none
  else if version = 1 then
    match ← publicHalf? rest with
    | (half, []) => return { version, kind, key, publicKey := some half }
    | _ => none
  else none

/-- The Ed25519 key of a structure. -/
def ed25519? (suite : SignatureSuite) (w : Wrapped) : Option PrivateKey := do
  let seed ← Strict.whole? .octetString w.key
  if seed.length ≠ 32 then none
  let key : PrivateKey := .ed25519 seed
  match w.publicKey with
  | none => some key
  | some half => if half = suite.publicKey key then some key else none

/-- The octets after the naming of a curve, which must be the given one. -/
def skipCurve? (name : NamedCurve) (octets : Octets) : Option Octets :=
  if octets.head? = some 0xA0 then do
    let (content, rest) ← Strict.expect? 0xA0 octets
    if content = Asn1.writeTag .oid name.oid then some rest else none
  else some octets

/-- The key on a curve in a structure. -/
def onCurve? (suite : SignatureSuite) (name : NamedCurve) (w : Wrapped) : Option PrivateKey := do
  if w.version ≠ 0 then none
  let content ← Strict.whole? .sequence w.key
  let (version, rest) ← Strict.unsigned? content
  let (secret, rest) ← Strict.tagged? .octetString rest
  let rest ← skipCurve? name rest
  match ← publicHalf? rest with
  | (half, []) =>
    let n := Octets.toNat secret
    let key : PrivateKey := .curve name n
    if version = 1 ∧ secret.length = name.curve.octets ∧ Ecdsa.isScalar name.curve n ∧
        half = suite.publicKey key then some key
    else none
  | _ => none

/-- The RSA key in a PKCS #1 structure. -/
def rsaKey? (der : Octets) : Option Rsa.PrivateKey := do
  let content ← Strict.whole? .sequence der
  let (version, rest) ← Strict.unsigned? content
  let (modulus, rest) ← Strict.unsigned? rest
  let (publicExponent, rest) ← Strict.unsigned? rest
  let (privateExponent, rest) ← Strict.unsigned? rest
  let (prime₁, rest) ← Strict.unsigned? rest
  let (prime₂, rest) ← Strict.unsigned? rest
  let (exponent₁, rest) ← Strict.unsigned? rest
  let (exponent₂, rest) ← Strict.unsigned? rest
  let (coefficient, rest) ← Strict.unsigned? rest
  if version = 0 ∧ rest.isEmpty then
    some { modulus, publicExponent, privateExponent, prime₁, prime₂, exponent₁, exponent₂,
           coefficient }
  else none

/-- The numbers of an RSA key are those of a key that may sign. -/
def maySign (k : Rsa.PrivateKey) : Bool :=
  let bits := Rsa.bitLength k.modulus
  let half := (bits + 1) / 2
  256 ≤ k.toPublic.octets && bits ≤ 4096 && k.modulus % 2 == 1 &&
    65537 ≤ k.publicExponent && k.publicExponent < 2 ^ 33 && k.publicExponent % 2 == 1 &&
    Rsa.bitLength k.prime₁ == half && Rsa.bitLength k.prime₂ == half &&
    k.prime₁ * k.prime₂ == k.modulus &&
    2 ^ half < k.privateExponent && k.privateExponent < k.modulus &&
    k.privateExponent % 2 == 1 &&
    k.exponent₁ < k.prime₁ && k.exponent₁ % 2 == 1 &&
    k.exponent₂ < k.prime₂ && k.exponent₂ % 2 == 1 &&
    k.coefficient < k.prime₁ && k.coefficient * k.prime₂ % k.prime₁ == 1

/-- The RSA key in a PKCS #8 structure. -/
def rsa? (w : Wrapped) : Option PrivateKey := do
  if w.version ≠ 0 then none
  let key ← rsaKey? w.key
  if maySign key then some (.rsa key) else none

/-- The key in a PKCS #8 structure. -/
def wrapped? (suite : SignatureSuite) (der : Octets) : Option PrivateKey := do
  let w ← unwrap? der
  if w.kind = PrivateKey.kind (.ed25519 []) then ed25519? suite w
  else if w.kind = PrivateKey.kind (.curve .p256 0) then onCurve? suite .p256 w
  else if w.kind = PrivateKey.kind (.curve .p384 0) then onCurve? suite .p384 w
  else if w.kind = Asn1.writeTag .oid Oid.rsaEncryption ++ Asn1.writeTag .null [] then rsa? w
  else none

/-- The text after a line end. -/
def afterEnd? : List Char → Option (List Char)
  | '\r' :: '\n' :: rest => some rest
  | '\n' :: rest => some rest
  | '\r' :: rest => some rest
  | _ => none

/-- The text before a line end that it ends with; the text comes and goes from back to front. -/
def beforeEnd? : List Char → Option (List Char)
  | '\n' :: '\r' :: rest => some rest
  | '\n' :: rest => some rest
  | '\r' :: rest => some rest
  | _ => none

/-- The text after the words that it starts with. -/
def after? (words : List Char) (text : List Char) : Option (List Char) :=
  if words.isPrefixOf text then some (text.drop words.length) else none

/-- The text from the first line on that opens a block. -/
def fromOpening? (opening : List Char) : (atStart : Bool) → List Char → Option (List Char)
  | _, [] => none
  | atStart, c :: rest =>
    if atStart && opening.isPrefixOf (c :: rest) then some (c :: rest)
    else if c = '\x00' then none
    else fromOpening? opening (c == '\n') rest

/-- The symbols in full lines and a last line that may be shorter. -/
def unwrapLines? : (fuel : Nat) → List Char → Option (List Char)
  | 0, _ => none
  | fuel + 1, text =>
    if text.length ≤ 64 then some text
    else do
      let rest ← afterEnd? (text.drop 64)
      return text.take 64 ++ (← unwrapLines? fuel rest)

/-- The octets of a block in strict form. -/
def strictBlock? (label : String) (text : String) : Option Octets := do
  let opening := "-----BEGIN ".toList
  let text ← fromOpening? opening true text.toList
  let text ← after? (opening ++ label.toList ++ "-----".toList) text
  let text := (← afterEnd? text).reverse
  let text := (beforeEnd? text).getD text
  let text ← after? ("-----END ".toList ++ label.toList ++ "-----".toList).reverse text
  let text ← beforeEnd? text
  Base64.decode? (← unwrapLines? (text.length + 1) text.reverse)

/-- The label of RSA keys in a form of their own. -/
def rsaLabel : String := "RSA PRIVATE KEY"

/-- The numbers of an RSA key fit together. -/
def isConsistent (k : Rsa.PrivateKey) : Bool :=
  Rsa.bitLength k.modulus ≤ 4096 && k.modulus % 2 == 1 &&
    2 ≤ k.publicExponent && k.publicExponent < 2 ^ 33 && k.publicExponent % 2 == 1 &&
    k.publicExponent < k.modulus &&
    2 ≤ k.prime₁ && 2 ≤ k.prime₂ && k.prime₁ * k.prime₂ == k.modulus &&
    1 ≤ k.publicExponent * k.privateExponent &&
    (k.publicExponent * k.privateExponent - 1) % (k.prime₁ - 1) == 0 &&
    (k.publicExponent * k.privateExponent - 1) % (k.prime₂ - 1) == 0

/-- The key with the numbers that follow from the others computed anew. -/
def recomputed? (k : Rsa.PrivateKey) : Option Rsa.PrivateKey := do
  let coefficient ← Modular.inverse? k.prime₁ (k.prime₂ % k.prime₁)
  return { k with
    exponent₁ := k.privateExponent % (k.prime₁ - 1)
    exponent₂ := k.privateExponent % (k.prime₂ - 1)
    coefficient }

/-- The RSA key in a block of a form of its own. -/
def rsaBlock (pem : String) : Except PkiError PrivateKey :=
  match (strictBlock? rsaLabel pem).bind rsaKey? with
  | none => .error (.parse "invalid PKCS#1 key: malformed block")
  | some k =>
    if !isConsistent k then .error (.parse "invalid PKCS#1 key: inconsistent numbers")
    else match recomputed? k with
      | none => .error (.parse "RSA key encoding failed: primes are not coprime")
      | some k =>
        if maySign k then .ok (.rsa k)
        else .error (.parse "RSA key rejected by signer: numbers out of range")

end KeyFile

namespace PrivateKey

/-- The private key in a PEM block. -/
def ofPem (suite : SignatureSuite) (pem : String) : Except PkiError PrivateKey :=
  match Pem.parse? (Utf8.ofString pem) with
  | none => .error (.parse "private key is not PEM: no block")
  | some block =>
    if block.label = Pem.privateKeyLabel then
      match KeyFile.wrapped? suite block.content with
      | some key => .ok key
      | none => .error (.parse "unsupported PKCS#8 key: malformed or inconsistent")
    else if block.label = KeyFile.rsaLabel then KeyFile.rsaBlock pem
    else .error (.parse s!"unsupported key block '{block.label}'")

end PrivateKey

end FleetIdentity
