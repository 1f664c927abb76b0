import FleetIdentity.Pki.Certificate
import FleetIdentity.Pki.KeyFile
import FleetIdentity.Proofs.Pki.PemBlocks

/-!
# PEM documents of certificates and keys

The text of a block is read back as the block, whatever its octets. So what becomes of a document
is decided by the octets alone: as a certificate they are read like bare octets, as a key like a
PKCS #8 structure, and a document of the one kind is refused where the other is wanted.
-/

namespace FleetIdentity

namespace Certificate

variable {der : Octets} {c : Certificate}

/-- A certificate keeps all the octets that it was read from, and its names as they were read. -/
theorem parts_of_read? (read : read? der = some c) : c.der = der ∧
    (∃ octets rest, DistinguishedName.read? octets = some (c.issuer, rest)) ∧
    ∃ octets rest, DistinguishedName.read? octets = some (c.subject, rest) := by
  obtain ⟨⟨content, _⟩, _, read⟩ := Option.bind_eq_some_iff.1 read
  obtain ⟨⟨signed, behind⟩, _, read⟩ := Option.bind_eq_some_iff.1 read
  obtain ⟨⟨version, _⟩, _, read⟩ := Option.bind_eq_some_iff.1 read
  obtain ⟨⟨serial, _⟩, _, read⟩ := Option.bind_eq_some_iff.1 read
  obtain ⟨⟨algorithm, _⟩, _, read⟩ := Option.bind_eq_some_iff.1 read
  obtain ⟨⟨issuer, _⟩, issuer_read, read⟩ := Option.bind_eq_some_iff.1 read
  obtain ⟨⟨validity, _⟩, _, read⟩ := Option.bind_eq_some_iff.1 read
  obtain ⟨⟨notBefore, _⟩, _, read⟩ := Option.bind_eq_some_iff.1 read
  obtain ⟨⟨notAfter, _⟩, _, read⟩ := Option.bind_eq_some_iff.1 read
  obtain ⟨⟨subject, _⟩, subject_read, read⟩ := Option.bind_eq_some_iff.1 read
  obtain ⟨⟨publicKey, _⟩, _, read⟩ := Option.bind_eq_some_iff.1 read
  obtain ⟨_, _, read⟩ := Option.bind_eq_some_iff.1 read
  obtain ⟨_, _, read⟩ := Option.bind_eq_some_iff.1 read
  obtain ⟨extensions, _, read⟩ := Option.bind_eq_some_iff.1 read
  obtain ⟨⟨signatureAlgorithm, _⟩, _, read⟩ := Option.bind_eq_some_iff.1 read
  obtain ⟨⟨signature, _⟩, _, made⟩ := Option.bind_eq_some_iff.1 read
  cases made
  exact ⟨rfl, ⟨_, _, issuer_read⟩, _, _, subject_read⟩

theorem ofDer_eq_ok_iff : ofDer der = .ok c ↔ read? der = some c := by
  unfold ofDer
  cases read? der <;> simp

/-- Octets that are no certificate are refused as unparsable, and for no other reason. -/
theorem ofDer_cases (der : Octets) :
    (∃ c, ofDer der = .ok c ∧ c.der = der) ∨ ∃ reason, ofDer der = .error (.parse reason) := by
  cases read : read? der with
  | some c => exact .inl ⟨c, ofDer_eq_ok_iff.2 read, (parts_of_read? read).1⟩
  | none =>
    right
    rw [ofDer, read]
    exact ⟨_, rfl⟩

theorem ofPem_encodeCertificate (der : Octets) :
    ofPem (Utf8.ofString (Pem.encodeCertificate der)) = ofDer der := by
  rw [ofPem, Pem.parse?_encodeCertificate]
  exact if_pos rfl

/-- A block of another label is no certificate, whatever it holds. -/
theorem ofPem_encodeKey (der : Octets) : ofPem (Utf8.ofString (Pem.encodeKey der)) =
    .error (.parse "expected CERTIFICATE block, found 'PRIVATE KEY'") := by
  have other : Pem.privateKeyLabel ≠ Pem.certificateLabel := by decide
  rw [ofPem, Pem.parse?_encodeKey]
  exact if_neg other

end Certificate

namespace PrivateKey

theorem ofPem_encodeKey_eq (suite : SignatureSuite) (der : Octets) :
    ofPem suite (Pem.encodeKey der) =
      match KeyFile.wrapped? suite der with
      | some key => .ok key
      | none => .error (.parse "unsupported PKCS#8 key: malformed or inconsistent") := by
  rw [ofPem, Pem.parse?_encodeKey]
  exact if_pos rfl

end PrivateKey

namespace Pem

/-- Whatever the octets are, the document of a certificate is read as they are: as the same
certificate, or refused as unparsable like them; a certificate survives its document; and the
document of a key is a block of keys with exactly these octets, which is read as a key from them
alone and is refused as a certificate for its label. -/
theorem documents_roundTrip (suite : SignatureSuite) (der : Octets) :
    Certificate.ofPem (Utf8.ofString (encodeCertificate der)) = Certificate.ofDer der ∧
    ((∃ c, Certificate.ofDer der = .ok c ∧ Certificate.ofPem (Utf8.ofString c.toPem) = .ok c) ∨
      ∃ reason, Certificate.ofDer der = .error (.parse reason)) ∧
    Certificate.ofPem (Utf8.ofString (encodeKey der)) =
      .error (.parse "expected CERTIFICATE block, found 'PRIVATE KEY'") ∧
    parse? (Utf8.ofString (encodeKey der)) = some ⟨"PRIVATE KEY", der⟩ ∧
    PrivateKey.ofPem suite (encodeKey der) =
      match KeyFile.wrapped? suite der with
      | some key => .ok key
      | none => .error (.parse "unsupported PKCS#8 key: malformed or inconsistent") := by
  refine ⟨Certificate.ofPem_encodeCertificate der, ?_, Certificate.ofPem_encodeKey der,
    parse?_encodeKey der, PrivateKey.ofPem_encodeKey_eq suite der⟩
  rcases Certificate.ofDer_cases der with ⟨c, read, rfl⟩ | refused
  · left
    refine ⟨c, read, ?_⟩
    rw [Certificate.toPem, Certificate.ofPem_encodeCertificate, read]
  · exact .inr refused

end Pem

end FleetIdentity
