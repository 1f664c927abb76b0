import FleetIdentity.Octets

/-!
Object identifiers.

An identifier is kept as its octets: the first one holds the first two arcs, every other arc is
written in digits of base 128. Two identifiers are the same when their octets are. The same arcs may
be written in different octets, as an arc may start with digits of zero and the last one may be left
without end.
-/

namespace FleetIdentity

/-- An object identifier by its octets. -/
abbrev Oid := Octets

namespace Oid

/-- The numbers in base 128; a last one without end counts as it is. -/
def arcs (n : Nat) (started : Bool) : Octets → List Nat
  | [] => if started then [n] else []
  | x :: rest =>
    let n := n * 128 + x.toNat % 128
    if x.toNat < 128 then n :: arcs 0 false rest else arcs n true rest

/-- The arcs of an identifier. -/
def toArcs : Oid → List Nat
  | [] => []
  | [0] => [0]
  | x :: rest => x.toNat / 40 :: x.toNat % 40 :: arcs 0 false rest

/-- The arcs after the first two in as few octets as they take, and the last one ended; `started`
within an arc. -/
def shortestFrom (started : Bool) : Octets → Octets
  | [] => []
  | [x] => [UInt8.ofNat (x.toNat % 128)]
  | x :: y :: rest =>
    if !started && x == 0x80 then shortestFrom false (y :: rest)
    else x :: shortestFrom (128 ≤ x.toNat) (y :: rest)

/-- The identifier with the same arcs in as few octets as they take. -/
def shortest : Oid → Oid
  | [] => []
  | x :: rest => x :: shortestFrom false rest

/-- No arc after the first two is of more octets than the limit; `taken` of the arc so far. -/
def arcsFit (limit taken : Nat) : Octets → Bool
  | [] => true
  | x :: rest => taken < limit && arcsFit limit (if x.toNat < 128 then 0 else taken + 1) rest

/-- The arcs with points between them. -/
def text (o : Oid) : String :=
  String.intercalate "." (o.toArcs.map toString)

/-- The identifier of a kind of name in the X.500 directory. -/
def directory (n : UInt8) : Oid := [0x55, 0x04, n]

/-- The identifier of a certificate extension. -/
def certificateExtension (n : UInt8) : Oid := [0x55, 0x1D, n]

/-- The common name of a subject. -/
def commonName : Oid := directory 3

/-- The country of a subject. -/
def country : Oid := directory 6

/-- The organization of a subject. -/
def organization : Oid := directory 10

/-- The extension that names the subject's key. -/
def subjectKeyIdentifier : Oid := certificateExtension 14

/-- The extension with more names of the subject. -/
def alternativeName : Oid := certificateExtension 17

/-- The extension that limits the names below an authority. -/
def nameConstraints : Oid := certificateExtension 30

/-- The extension that says what a key is for. -/
def keyUsage : Oid := certificateExtension 15

/-- The extension that says whether the subject is an authority. -/
def basicConstraints : Oid := certificateExtension 19

/-- The extension that says in which protocols a key is used. -/
def extendedKeyUsage : Oid := certificateExtension 37

/-- The use of a key by a client. -/
def clientAuth : Oid := [0x2B, 0x06, 0x01, 0x05, 0x05, 0x07, 0x03, 0x02]

/-- The use of a key by a server. -/
def serverAuth : Oid := [0x2B, 0x06, 0x01, 0x05, 0x05, 0x07, 0x03, 0x01]

/-- An identifier of PKCS #1. -/
def pkcs1 (n : UInt8) : Oid := [0x2A, 0x86, 0x48, 0x86, 0xF7, 0x0D, 0x01, 0x01, n]

/-- RSA keys. -/
def rsaEncryption : Oid := pkcs1 1

/-- RSA signatures of SHA-1 digests. -/
def rsaSha1 : Oid := pkcs1 5

/-- RSA signatures of SHA-1 digests, by an older name. -/
def rsaSha1Old : Oid := [0x2B, 0x0E, 0x03, 0x02, 0x1D]

/-- RSA signatures of SHA-256 digests. -/
def rsaSha256 : Oid := pkcs1 11

/-- RSA signatures of SHA-384 digests. -/
def rsaSha384 : Oid := pkcs1 12

/-- RSA signatures of SHA-512 digests. -/
def rsaSha512 : Oid := pkcs1 13

/-- Keys on an elliptic curve. -/
def ecPublicKey : Oid := [0x2A, 0x86, 0x48, 0xCE, 0x3D, 0x02, 0x01]

/-- The curve P-256. -/
def p256 : Oid := [0x2A, 0x86, 0x48, 0xCE, 0x3D, 0x03, 0x01, 0x07]

/-- The curve P-384. -/
def p384 : Oid := [0x2B, 0x81, 0x04, 0x00, 0x22]

/-- ECDSA signatures of SHA-256 digests. -/
def ecdsaSha256 : Oid := [0x2A, 0x86, 0x48, 0xCE, 0x3D, 0x04, 0x03, 0x02]

/-- ECDSA signatures of SHA-384 digests. -/
def ecdsaSha384 : Oid := [0x2A, 0x86, 0x48, 0xCE, 0x3D, 0x04, 0x03, 0x03]

/-- Ed25519 keys and signatures. -/
def ed25519 : Oid := [0x2B, 0x65, 0x70]

/-- The digest SHA-1. -/
def sha1 : Oid := [0x2B, 0x0E, 0x03, 0x02, 0x1A]

/-- A digest of the SHA-2 family. -/
def sha2 (n : UInt8) : Oid := [0x60, 0x86, 0x48, 0x01, 0x65, 0x03, 0x04, 0x02, n]

end Oid

end FleetIdentity
