import FleetIdentity.Pki.Issuance
import FleetIdentity.Proofs.Pki.Moments
import FleetIdentity.Proofs.Pki.Names

/-!
# Issued certificates are read back

The certificate that a request and a signature make is read with what the request says: the serial
number, both names, the validity, the public key and the extensions. What is signed are the very
octets that the reader takes for the signed part.
-/

namespace FleetIdentity

open Asn1

/-! ### Algorithms and public keys -/

namespace AlgorithmIdentifier

theorem reads_plain {oid : Oid} (fits : Fits (writeTag .sequence (writeTag .oid oid))) :
    Reads read? (writeTag .sequence (writeTag .oid oid)) ⟨oid, none⟩ := by
  intro rest
  have alone := (reads_primitive? .oid rfl fits.of_write.of_write).alone
  rw [read?, reads_expect? _ fits.of_write]
  simp only [Option.bind_eq_bind, Option.bind_some, alone]
  rfl

theorem reads_with {oid : Oid} {tag : Tag} {content : Octets}
    (fits : Fits (writeTag .sequence (writeTag .oid oid ++ writeTag tag content))) :
    Reads read? (writeTag .sequence (writeTag .oid oid ++ writeTag tag content))
      ⟨oid, some ⟨.ofOctet tag.octet, content⟩⟩ := by
  intro rest
  have content_fits : Fits (writeTag tag content) :=
    fits.of_write.of_le (by rw [List.length_append]; exact Nat.le_add_left _ _)
  have oid_fits : Fits (writeTag .oid oid) :=
    fits.of_write.of_le (by rw [List.length_append]; exact Nat.le_add_right _ _)
  have last := (Asn1.reads_write tag.single_octet content_fits.of_write).alone
  rw [read?, reads_expect? _ fits.of_write]
  simp only [Option.bind_eq_bind, Option.bind_some, reads_primitive? .oid rfl oid_fits.of_write _]
  rw [if_neg, writeTag, last]
  · rfl
  · exact fun empty => Asn1.write_ne_nil _ _ (List.isEmpty_iff.1 empty)

end AlgorithmIdentifier

namespace SignedDigest

/-- The identifier of RSA signatures of digests. -/
def rsaOid : SignedDigest → Oid
  | .sha1 => Oid.rsaSha1
  | .sha256 => Oid.rsaSha256
  | .sha384 => Oid.rsaSha384
  | .sha512 => Oid.rsaSha512

/-- The identifier of ECDSA signatures of digests. -/
def ecdsaOid : SignedDigest → Oid
  | .sha384 => Oid.ecdsaSha384
  | _ => Oid.ecdsaSha256

end SignedDigest

namespace SignatureKind

/-- The algorithm of a signature, as it is read. -/
def algorithm : SignatureKind → AlgorithmIdentifier
  | .rsa digest => ⟨digest.rsaOid, some ⟨.ofOctet Tag.null.octet, []⟩⟩
  | .ecdsa _ digest => ⟨digest.ecdsaOid, none⟩
  | .ed25519 => ⟨Oid.ed25519, none⟩

theorem reads_algorithm (kind : SignatureKind) :
    Reads AlgorithmIdentifier.read? (CertificateRequest.writeAlgorithm kind) kind.algorithm := by
  cases kind with
  | rsa digest =>
    have written : CertificateRequest.writeAlgorithm (.rsa digest) =
        writeTag .sequence (writeTag .oid digest.rsaOid ++ writeTag .null []) := by
      cases digest <;> rfl
    rw [written]
    exact AlgorithmIdentifier.reads_with (by cases digest <;> decide)
  | ecdsa curve digest =>
    have written : CertificateRequest.writeAlgorithm (.ecdsa curve digest) =
        writeTag .sequence (writeTag .oid digest.ecdsaOid) := by
      cases digest <;> rfl
    rw [written]
    exact AlgorithmIdentifier.reads_plain (by cases digest <;> decide)
  | ed25519 =>
    have written : CertificateRequest.writeAlgorithm .ed25519 =
        writeTag .sequence (writeTag .oid Oid.ed25519) := rfl
    rw [written]
    exact AlgorithmIdentifier.reads_plain (by decide)

end SignatureKind

namespace PrivateKey

/-- The naming of the kind of key, as it is read. -/
def algorithm : PrivateKey → AlgorithmIdentifier
  | .ed25519 _ => ⟨Oid.ed25519, none⟩
  | .curve name _ => ⟨Oid.ecPublicKey, some ⟨.ofOctet Tag.oid.octet, name.oid⟩⟩
  | .rsa _ => ⟨Oid.rsaEncryption, some ⟨.ofOctet Tag.null.octet, []⟩⟩

theorem reads_kind (k : PrivateKey) :
    Reads AlgorithmIdentifier.read? (writeTag .sequence k.kind) k.algorithm := by
  cases k with
  | ed25519 seed =>
    have fits : Fits (writeTag .sequence (writeTag .oid Oid.ed25519)) := by decide
    exact AlgorithmIdentifier.reads_plain fits
  | curve name secret =>
    have fits : Fits (writeTag .sequence
        (writeTag .oid Oid.ecPublicKey ++ writeTag .oid name.oid)) := by
      cases name <;> decide
    exact AlgorithmIdentifier.reads_with fits
  | rsa key =>
    have fits : Fits (writeTag .sequence
        (writeTag .oid Oid.rsaEncryption ++ writeTag .null [])) := by decide
    exact AlgorithmIdentifier.reads_with fits

/-- A public key with its algorithm, as it is read from the naming of its key. -/
def info (k : PrivateKey) (half : Octets) : PublicKeyInfo :=
  ⟨k.publicKeyInfo half, k.algorithm, half⟩

theorem reads_publicKeyInfo (k : PrivateKey) {half : Octets} (fits : Fits (k.publicKeyInfo half)) :
    Reads PublicKeyInfo.read? (k.publicKeyInfo half) (k.info half) := by
  have bits_fits : Fits (writeBits half) := fits.of_mem (by simp)
  have bits := (reads_bitString? bits_fits.of_write).alone
  have read := reads_expect? .sequence fits.of_write
  intro rest
  rw [PublicKeyInfo.read?, publicKeyInfo, Asn1.sequence, read]
  simp only [Option.bind_eq_bind, Option.bind_some, List.flatten_cons, List.flatten_nil,
    List.append_nil, reads_kind k _, bits, consumed_append, List.length_nil, Nat.sub_zero,
    List.take_length]
  simp only [info, publicKeyInfo, Asn1.sequence, List.flatten_cons, List.flatten_nil,
    List.append_nil]
  rfl

end PrivateKey

/-! ### Extensions -/

namespace CertificateExtension

/-- The octets of an extension. -/
def write (e : CertificateExtension) : Octets :=
  CertificateRequest.writeExtension e.type e.critical e.value

theorem reads_write {e : CertificateExtension} (fits : Fits e.write) :
    Reads read? e.write e := by
  have type_fits : Fits (writeTag .oid e.type) := fits.of_mem (by simp)
  have value_fits : Fits (writeTag .octetString e.value) := fits.of_mem (by simp)
  have value := (reads_primitive? .octetString rfl value_fits.of_write).alone
  have flag : readFlag ((if e.critical = true then writeTag .boolean [0xFF] else []) ++
      writeTag .octetString e.value) = (e.critical, writeTag .octetString e.value) := by
    cases e.critical with
    | true =>
      rw [if_pos rfl, readFlag, reads_primitive? .boolean rfl (by decide)]
      rfl
    | false =>
      -- There is no flag: the reader finds the tag of the value and leaves it there.
      have other := (Asn1.reads_write (Tag.single_octet .octetString) value_fits.of_write).alone
      rw [if_neg Bool.false_ne_true, List.nil_append, readFlag, primitive?, writeTag, other]
      rfl
  intro rest
  rw [read?, write, CertificateRequest.writeExtension, Asn1.sequence, reads_expect? _ fits.of_write]
  simp only [Option.bind_eq_bind, Option.bind_some, List.flatten_cons, List.flatten_nil,
    List.append_nil, reads_primitive? .oid rfl type_fits.of_write _, flag, value]
  rfl

theorem read?_nil : read? [] = none := rfl

end CertificateExtension

namespace CertificateRequest

/-- The extensions of a certificate for a request. -/
def extensions (r : CertificateRequest) : List CertificateExtension :=
  let common : List CertificateExtension := [
    ⟨Oid.keyUsage, true, writeTag .bitString (if r.isAuthority then [2, 0x84] else [7, 0x80])⟩,
    ⟨Oid.extendedKeyUsage, false,
      Asn1.sequence [writeTag .oid Oid.clientAuth, writeTag .oid Oid.serverAuth]⟩]
  if r.isAuthority then
    common ++ [
      ⟨Oid.subjectKeyIdentifier, false,
        writeTag .octetString ((Sha2.sha256.digest r.publicKeyInfo).take 20)⟩,
      ⟨Oid.basicConstraints, true, Asn1.sequence [writeTag .boolean [0xFF]]⟩]
  else common

theorem writeExtensions_eq (r : CertificateRequest) :
    r.writeExtensions = Asn1.sequence (r.extensions.map CertificateExtension.write) := by
  unfold writeExtensions extensions
  cases r.isAuthority <;> rfl

theorem readAll?_writeExtensions {r : CertificateRequest}
    (fits : Fits (Asn1.write 0xA3 r.writeExtensions)) :
    CertificateExtension.readAll? (Asn1.write 0xA3 r.writeExtensions) = some r.extensions := by
  have each : ReadsEach CertificateExtension.read? CertificateExtension.write id r.extensions := by
    refine ⟨fun e mem => CertificateExtension.reads_write ?_, fun e _ => Asn1.write_ne_nil _ _⟩
    have inner := fits.of_write
    rw [writeExtensions_eq] at inner
    exact inner.of_mem (List.mem_map_of_mem mem)
  have all := all?_of_readsEach each CertificateExtension.read?_nil
  rw [List.map_id] at all
  have inner := (reads_expect? .sequence (writeExtensions_eq r ▸ fits.of_write).of_write).alone
  have length := Asn1.reads_writeLength fits.of_write r.writeExtensions
  have identifier := identifier?_cons (x := 0xA3) (by decide)
    (writeLength r.writeExtensions.length ++ r.writeExtensions)
  have written : Asn1.write 0xA3 r.writeExtensions =
      0xA3 :: (writeLength r.writeExtensions.length ++ r.writeExtensions) := rfl
  rw [written, CertificateExtension.readAll?, List.isEmpty_cons, identifier]
  simp only [Bool.false_eq_true, if_false, Option.bind_eq_bind, Option.bind_some, length]
  rw [if_neg (by decide), writeExtensions_eq, Asn1.sequence, inner]
  exact all

end CertificateRequest

/-! ### The certificate -/

namespace Certificate

theorem readVersion?_write (rest : Octets) :
    readVersion? (Asn1.write 0xA0 (writeInteger 2) ++ rest) = some (2, rest) := by
  have element := Asn1.reads_write (x := 0xA0) (by decide)
    (show Fits (writeInteger 2) by decide) rest
  have number := (reads_primitive? .integer rfl (show Fits (unsigned 2) by decide)).alone
  rw [readVersion?, element]
  dsimp only
  rw [if_pos (by decide), writeInteger, number]
  rfl

theorem skipUniqueId?_write {content : Octets} (fits : Fits content) {number : Nat}
    (other : number ≠ 3) :
    skipUniqueId? number (Asn1.write 0xA3 content) = some (Asn1.write 0xA3 content) := by
  have element := (Asn1.reads_write (x := 0xA3) (by decide) fits).alone
  have number_eq : (Identifier.ofOctet 0xA3).number = 3 := by decide
  rw [skipUniqueId?, element]
  dsimp only
  rw [if_neg fun same => other (same.2.symm.trans number_eq)]

end Certificate

namespace CertificateRequest

variable {r : CertificateRequest} {suite : SignatureSuite} {issuer : DistinguishedName}
  {key subjectKey : PrivateKey} {half : Octets}

/-- The request says what can be read: moments in the calendar, a plain name, and a public key. -/
structure Readable (r : CertificateRequest) (subjectKey : PrivateKey) (half : Octets) : Prop where
  notBefore_in : CertificateTime.InCalendar r.notBefore
  notAfter_in : CertificateTime.InCalendar r.notAfter
  subject_plain : DistinguishedName.IsPlain r.subject
  publicKeyInfo_eq : r.publicKeyInfo = subjectKey.publicKeyInfo half

/-- The certificate for a request, as it is read. -/
def certificate (r : CertificateRequest) (suite : SignatureSuite) (issuer : DistinguishedName)
    (key : PrivateKey) (publicKey : PublicKeyInfo) : Certificate where
  der := r.sign suite issuer key
  signed := r.writeSigned issuer key.signatureKind
  version := 2
  serial := unsigned (Octets.toNat r.serial)
  issuer
  notBefore := r.notBefore
  notAfter := r.notAfter
  subject := r.subject
  publicKey
  extensions := r.extensions
  signatureAlgorithm := key.signatureKind.algorithm
  signature := suite.sign key (r.writeSigned issuer key.signatureKind)

/-- The certificate for a request is read back. -/
theorem read?_sign (readable : r.Readable subjectKey half)
    (issuer_plain : DistinguishedName.IsPlain issuer) (fits : Fits (r.sign suite issuer key)) :
    Certificate.read? (r.sign suite issuer key) =
      some (r.certificate suite issuer key (subjectKey.info half)) := by
  have signed_fits : Fits (r.writeSigned issuer key.signatureKind) := fits.of_mem (by simp)
  have bits_fits : Fits (writeBits (suite.sign key (r.writeSigned issuer key.signatureKind))) :=
    fits.of_mem (by simp)
  have serial_fits : Fits (writeInteger (Octets.toNat r.serial)) := signed_fits.of_mem (by simp)
  have issuer_fits : Fits (DistinguishedName.write issuer) := signed_fits.of_mem (by simp)
  have validity_fits : Fits (Asn1.sequence [CertificateTime.write r.notBefore,
    CertificateTime.write r.notAfter]) := signed_fits.of_mem (by simp)
  have subject_fits : Fits (DistinguishedName.write r.subject) := signed_fits.of_mem (by simp)
  have info_fits : Fits r.publicKeyInfo := signed_fits.of_mem (by simp)
  have extensions_fits : Fits (Asn1.write 0xA3 r.writeExtensions) := signed_fits.of_mem (by simp)
  have signed : Reads (expect? .sequence) (r.writeSigned issuer key.signatureKind) _ :=
    reads_sequence signed_fits
  have serial : Reads (expect? .integer) (writeInteger (Octets.toNat r.serial))
    (unsigned (Octets.toNat r.serial)) := reads_expect? .integer serial_fits.of_write
  have validity := reads_sequence validity_fits
  have publicKey : Reads PublicKeyInfo.read? r.publicKeyInfo (subjectKey.info half) :=
    readable.publicKeyInfo_eq ▸
      subjectKey.reads_publicKeyInfo (readable.publicKeyInfo_eq ▸ info_fits)
  have content := (reads_sequence fits).alone
  simp only [List.flatten_cons, List.flatten_nil, List.append_nil] at signed validity content
  -- Field by field in the order of writing, each in front of all that are written after it.
  rw [Certificate.read?]
  refine (bind_of_eq_some content).trans ?_
  refine (bind_of_eq_some (signed _)).trans ?_
  refine (bind_of_eq_some (Certificate.readVersion?_write _)).trans ?_
  refine (bind_of_eq_some (serial _)).trans ?_
  refine (bind_of_eq_some (key.signatureKind.reads_algorithm _)).trans ?_
  refine (bind_of_eq_some (issuer_plain.reads_write issuer_fits _)).trans ?_
  refine (bind_of_eq_some (validity _)).trans ?_
  refine (bind_of_eq_some (CertificateTime.reads_write readable.notBefore_in _)).trans ?_
  refine (bind_of_eq_some (CertificateTime.reads_write readable.notAfter_in).alone).trans ?_
  refine (bind_of_eq_some (readable.subject_plain.reads_write subject_fits _)).trans ?_
  refine (bind_of_eq_some (publicKey _)).trans ?_
  refine (bind_of_eq_some
    (Certificate.skipUniqueId?_write extensions_fits.of_write (by decide))).trans ?_
  refine (bind_of_eq_some
    (Certificate.skipUniqueId?_write extensions_fits.of_write (by decide))).trans ?_
  refine (bind_of_eq_some (readAll?_writeExtensions extensions_fits)).trans ?_
  refine (bind_of_eq_some (key.signatureKind.reads_algorithm _)).trans ?_
  refine (bind_of_eq_some (reads_bitString? bits_fits.of_write).alone).trans ?_
  rw [consumed_append]
  rfl

/-! ### What an issued certificate says -/

/-- Only an authority is asked to be one. -/
theorem isAuthority_certificate (r : CertificateRequest) (suite : SignatureSuite)
    (issuer : DistinguishedName) (key : PrivateKey) (publicKey : PublicKeyInfo) :
    (r.certificate suite issuer key publicKey).isAuthority = r.isAuthority := by
  rw [Certificate.isAuthority, Certificate.extension?, certificate, extensions]
  cases r.isAuthority with
  | true => rfl
  | false => rfl

theorem hasUsableExtensions_certificate (r : CertificateRequest) (suite : SignatureSuite)
    (issuer : DistinguishedName) (key : PrivateKey) (publicKey : PublicKeyInfo) :
    CertificateAuthority.hasUsableExtensions (r.certificate suite issuer key publicKey) = true := by
  rw [CertificateAuthority.hasUsableExtensions, Certificate.extension?, certificate, extensions]
  cases r.isAuthority with
  | true => rfl
  | false => rfl

end CertificateRequest

namespace Certificate

/-- The algorithm that a certificate names is the one that its signer's key signs with. -/
theorem signatureKind?_info (key : PrivateKey) (half : Octets) :
    signatureKind? key.signatureKind.algorithm.algorithm (key.info half) =
      some key.signatureKind := by
  cases key with
  | ed25519 seed => rfl
  | curve name secret =>
    cases name with
    | p256 => rfl
    | p384 => rfl
  | rsa key => rfl

end Certificate

end FleetIdentity
