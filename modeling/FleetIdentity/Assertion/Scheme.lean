import FleetIdentity.Crypto.Blake3
import FleetIdentity.Crypto.Ed25519
import FleetIdentity.Encoding.Hex

/-!
The signature scheme of assertions.

What the assertions need of a scheme is five functions, a signature of 64 octets and a name for
each key. Everything about streams holds for any scheme; the service uses Ed25519 and names a key by
its BLAKE3 digest.
-/

namespace FleetIdentity

/-- What assertions need of a signature scheme; keys, seeds and signatures are octets. -/
structure SignatureScheme where
  /-- The octets are a public key. -/
  isPublicKey : (key : Octets) → Bool
  /-- The name of a public key. -/
  keyId : (key : Octets) → String
  /-- The public key of a seed. -/
  publicKey : (seed : Octets) → Octets
  /-- The signature that the owner of a seed makes. -/
  sign : (seed message : Octets) → Octets
  /-- A signature of a message under a public key is good. -/
  verify : (key message signature : Octets) → Bool
  keyId_ne_empty : ∀ key, keyId key ≠ ""
  length_sign : ∀ seed message, (sign seed message).length = 64

namespace SignatureScheme

/-- Ed25519 with strict verification; a key is named by the digits of its digest. -/
def ed25519 : SignatureScheme where
  isPublicKey key := (Ed25519.decompress? key).isSome
  keyId key := Hex.text (Blake3.digest key)
  publicKey := Ed25519.publicKey
  sign := Ed25519.sign
  verify := Ed25519.verifyStrict
  keyId_ne_empty key := Hex.text_ne_empty <| List.ne_nil_of_length_pos <| by
    rw [Blake3.length_digest]
    decide
  length_sign := Ed25519.length_sign

end SignatureScheme

end FleetIdentity
