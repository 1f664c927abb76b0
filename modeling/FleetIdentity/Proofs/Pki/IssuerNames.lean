import FleetIdentity.Proofs.Pki.ChainOfTrust
import FleetIdentity.Proofs.Pki.NamesAlike
import FleetIdentity.Proofs.Pki.PemDocuments

/-!
# What the check of an issuer says of the names

A certificate is checked against its issuer by the texts of names alone. For clear names this is as
good as a comparison of types and values. Names of more than one attribute, and those that are not
clear, leave room for another name: what the key of the issuer signed under that one passes too.
-/

namespace FleetIdentity

open Asn1

/-! ### Names that were read -/

theorem Asn1.exists_read_of_mem_many {α : Type} {read : Octets → Option (α × Octets)} {fuel : Nat}
    {octets : Octets} {a : α} (mem : a ∈ (many read fuel octets).1) :
    ∃ front rest, read front = some (a, rest) := by
  induction fuel generalizing octets with
  | zero => cases mem
  | succ fuel ih =>
    rw [many] at mem
    split at mem
    · cases mem
    · next b rest front_read =>
      split at mem
      · rcases List.mem_cons.1 mem with rfl | later
        · exact ⟨octets, rest, front_read⟩
        · exact ih later
      · cases mem

namespace DistinguishedName

theorem ne_nil_of_readSet? {octets rest : Octets} {set : List NameAttribute}
    (read : readSet? octets = some (set, rest)) : set ≠ [] := by
  rintro rfl
  simp only [readSet?, Option.bind_eq_bind, Option.bind_eq_some_iff] at read
  obtain ⟨_, _, found⟩ := read
  split at found
  · cases found
  · next some_attribute _ =>
    cases found
    exact some_attribute rfl

/-- A set without attributes is not read. -/
theorem isFull_of_read? {octets rest : Octets} {name : DistinguishedName}
    (read : read? octets = some (name, rest)) : name.IsFull := by
  simp only [read?, Option.bind_eq_bind, Option.bind_eq_some_iff] at read
  obtain ⟨_, _, found⟩ := read
  cases found
  intro set mem
  obtain ⟨front, later, set_read⟩ := exists_read_of_mem_many mem
  exact ne_nil_of_readSet? set_read

end DistinguishedName

/-! ### Certificates and their issuers -/

namespace Certificate

variable {c issuer : Certificate} {suite : SignatureSuite}

theorem isFull_of_ofDer {der : Octets} (read : ofDer der = .ok c) :
    c.issuer.IsFull ∧ c.subject.IsFull := by
  obtain ⟨-, ⟨_, _, issuer_read⟩, _, _, subject_read⟩ := parts_of_read? (ofDer_eq_ok_iff.1 read)
  exact ⟨DistinguishedName.isFull_of_read? issuer_read,
    DistinguishedName.isFull_of_read? subject_read⟩

/-- A certificate passes exactly if the issuer is an authority, the names read alike, and the
signature is good. -/
theorem verifyIssuedBy_eq_ok_iff : c.verifyIssuedBy suite issuer = .ok () ↔
    issuer.isAuthority = true ∧ c.isSignedBy suite issuer.publicKey = true ∧
      c.issuer.text = issuer.subject.text := by
  rw [verifyIssuedBy]
  cases may : issuer.isAuthority with
  | false =>
    constructor
    · intro passes
      cases passes
    · intro all
      cases all.1
  | true =>
    by_cases alike : c.issuerText = issuer.subjectText
    · rw [if_neg (by decide), if_neg (not_not_intro alike)]
      cases c.isSignedBy suite issuer.publicKey with
      | false =>
        constructor
        · intro passes
          cases passes
        · intro all
          cases all.2.1
      | true => exact ⟨fun _ => ⟨rfl, rfl, alike⟩, fun _ => rfl⟩
    · rw [if_neg (by decide), if_pos alike]
      constructor
      · intro passes
        cases passes
      · intro all
        exact absurd all.2.2 alike

/-- A certificate that passes is signed by an authority, under a name that reads like the name of
the authority. If both names are clear, they have the same types and texts of values, and are the
same if the kinds of the values are. Unless the name of the authority is clear and of one attribute
at most, there is a name with other types or values under which everything passes that the key of
the authority signed. -/
theorem verifyIssuedBy_names (suite : SignatureSuite) {der der' : Octets}
    (read : ofDer der = .ok c) (read' : ofDer der' = .ok issuer) :
    (c.verifyIssuedBy suite issuer = .ok () ↔ issuer.isAuthority = true ∧
      c.isSignedBy suite issuer.publicKey = true ∧ c.issuer.text = issuer.subject.text) ∧
    (c.issuer.IsClear → issuer.subject.IsClear → c.verifyIssuedBy suite issuer = .ok () →
      c.issuer.spelling = issuer.subject.spelling ∧
        (c.issuer.kinds = issuer.subject.kinds → c.issuer = issuer.subject)) ∧
    (¬ (issuer.subject.IsClear ∧ issuer.subject.flatten.length ≤ 1) →
      ∃ other : DistinguishedName, other.IsFull ∧ other.spelling ≠ issuer.subject.spelling ∧
        ∀ d : Certificate, d.issuer = other → (d.verifyIssuedBy suite issuer = .ok () ↔
          issuer.isAuthority = true ∧ d.isSignedBy suite issuer.publicKey = true)) := by
  have full := (isFull_of_ofDer read).1
  have full' := (isFull_of_ofDer read').2
  refine ⟨verifyIssuedBy_eq_ok_iff, fun clear clear' passes => ?_, fun unclear => ?_⟩
  · obtain ⟨-, -, alike⟩ := verifyIssuedBy_eq_ok_iff.1 passes
    have spelled := DistinguishedName.spelling_of_text full full' clear clear' alike
    exact ⟨spelled, DistinguishedName.eq_of_spelling clear.isReadable spelled⟩
  · obtain ⟨other, other_full, alike, differs⟩ := DistinguishedName.exists_text_eq full' unclear
    refine ⟨other, other_full, differs, ?_⟩
    rintro d rfl
    rw [verifyIssuedBy_eq_ok_iff]
    exact ⟨fun ⟨may, signed, _⟩ => ⟨may, signed⟩, fun ⟨may, signed⟩ => ⟨may, signed, alike⟩⟩

/-! ### An authority with a comma in its name -/

/-- The key of an authority. -/
def acmeKey : PrivateKey := .ed25519 (List.replicate 32 7)

/-- The public half of the key. -/
def acmeHalf : Octets := SignatureSuite.standard.publicKey acmeKey

/-- A common name and an organization. -/
def acmeTrust : DistinguishedName := DistinguishedName.ofAttributes
  ([(Oid.commonName, "Acme"), (Oid.organization, "Trust")].map fun t => .ofText t.1 t.2)

/-- A common name with a comma. -/
def acmeCommaTrust : DistinguishedName := DistinguishedName.ofAttributes
  ([(Oid.commonName, "Acme, O=Trust")].map fun t => .ofText t.1 t.2)

/-- A request of the owner of the key. -/
def acmeRequest (serial : Octets) (subject : DistinguishedName) (isAuthority : Bool) :
    CertificateRequest where
  serial
  notBefore := 1704067200
  notAfter := 2019600000
  subject
  isAuthority
  publicKeyInfo := acmeKey.publicKeyInfo acmeHalf

/-- The request of a device. -/
def acmeDevice : CertificateRequest :=
  acmeRequest [1] (DistinguishedName.ofAttributes
    ([(Oid.commonName, "device-1")].map fun t => .ofText t.1 t.2)) false

theorem readable_acmeRequest {subject : DistinguishedName} (plain : subject.IsPlain)
    (serial : Octets) (isAuthority : Bool) :
    (acmeRequest serial subject isAuthority).Readable acmeKey acmeHalf where
  notBefore_in := by simp [acmeRequest, CertificateTime.InCalendar]
  notAfter_in := by simp [acmeRequest, CertificateTime.InCalendar]
  subject_plain := plain
  publicKeyInfo_eq := rfl

/-- The certificate of the device, signed under the name with two attributes. -/
def acmeDeviceCertificate : Certificate :=
  acmeDevice.certificate .standard acmeTrust acmeKey (acmeKey.info acmeHalf)

/-- The certificate of an authority that signs under its own name. -/
def acmeAuthority (name : DistinguishedName) : Certificate :=
  (acmeRequest [2] name true).certificate .standard name acmeKey (acmeKey.info acmeHalf)

theorem ofDer_sign {r : CertificateRequest} {name : DistinguishedName}
    (readable : r.Readable acmeKey acmeHalf) (plain : name.IsPlain)
    (fits : Fits (r.sign .standard name acmeKey)) :
    ofDer (r.sign .standard name acmeKey) =
      .ok (r.certificate .standard name acmeKey (acmeKey.info acmeHalf)) := by
  rw [ofDer, CertificateRequest.read?_sign readable plain fits]

theorem ofDer_acmeDevice :
    ofDer (acmeDevice.sign .standard acmeTrust acmeKey) = .ok acmeDeviceCertificate :=
  ofDer_sign (readable_acmeRequest (DistinguishedName.isPlain_ofTexts _) _ _)
    (DistinguishedName.isPlain_ofTexts _) (by decide +kernel)

theorem ofDer_acmeTrust :
    ofDer ((acmeRequest [2] acmeTrust true).sign .standard acmeTrust acmeKey) =
      .ok (acmeAuthority acmeTrust) :=
  ofDer_sign (readable_acmeRequest (DistinguishedName.isPlain_ofTexts _) _ _)
    (DistinguishedName.isPlain_ofTexts _) (by decide +kernel)

theorem ofDer_acmeCommaTrust :
    ofDer ((acmeRequest [2] acmeCommaTrust true).sign .standard acmeCommaTrust acmeKey) =
      .ok (acmeAuthority acmeCommaTrust) :=
  ofDer_sign (readable_acmeRequest (DistinguishedName.isPlain_ofTexts _) _ _)
    (DistinguishedName.isPlain_ofTexts _) (by decide +kernel)

theorem verify_acmeDevice : SignatureSuite.standard.verify acmeKey.signatureKind acmeHalf
    (acmeDevice.writeSigned acmeTrust acmeKey.signatureKind)
    (SignatureSuite.standard.sign acmeKey
      (acmeDevice.writeSigned acmeTrust acmeKey.signatureKind)) = true := by
  decide +kernel

/-- The signature of the device's certificate is good under the key of either authority. -/
theorem isSignedBy_acmeDevice (name : DistinguishedName) :
    acmeDeviceCertificate.isSignedBy .standard (acmeAuthority name).publicKey = true := by
  have keyed : (acmeAuthority name).publicKey = acmeKey.info acmeHalf := rfl
  rw [isSignedBy, keyed, acmeDeviceCertificate, CertificateRequest.certificate, signatureKind?_info]
  exact verify_acmeDevice

/-- The check passes under an authority whose one attribute is a common name with a comma, though
the certificate names a common name and an organization. -/
theorem verifyIssuedBy_comma :
    ofDer (acmeDevice.sign .standard acmeTrust acmeKey) = .ok acmeDeviceCertificate ∧
    ofDer ((acmeRequest [2] acmeCommaTrust true).sign .standard acmeCommaTrust acmeKey) =
      .ok (acmeAuthority acmeCommaTrust) ∧
    acmeDeviceCertificate.verifyIssuedBy .standard (acmeAuthority acmeCommaTrust) = .ok () ∧
    acmeDeviceCertificate.issuer.spelling ≠ (acmeAuthority acmeCommaTrust).subject.spelling := by
  refine ⟨ofDer_acmeDevice, ofDer_acmeCommaTrust, ?_, ?_⟩
  · refine verifyIssuedBy_eq_ok_iff.2 ⟨rfl, isSignedBy_acmeDevice _, ?_⟩
    show acmeTrust.text = acmeCommaTrust.text
    decide +kernel
  · show acmeTrust.spelling ≠ acmeCommaTrust.spelling
    decide +kernel

theorem isClear_acmeTrust : acmeTrust.IsClear := by
  intro set mem a mem_set
  have plain (value : String) (none : '=' ∉ value.toList) {type : Oid}
      (minimal : type.isMinimal = true) : (NameAttribute.ofText type value).IsClear :=
    ⟨minimal, value, NameAttribute.valueText?_ofText type value,
      not_hidesAttribute_of_no_equals none⟩
  simp only [acmeTrust, DistinguishedName.ofAttributes, List.map_cons, List.map_nil,
    List.mem_cons, List.not_mem_nil, or_false] at mem
  rcases mem with rfl | rfl
  · rw [List.mem_singleton.1 mem_set]
    exact plain "Acme" (by decide) (by decide)
  · rw [List.mem_singleton.1 mem_set]
    exact plain "Trust" (by decide) (by decide)

/-- Under the authority that the certificate names, all of it says what it should; and still there
is another name that would pass. -/
theorem verifyIssuedBy_names_acme :
    acmeDeviceCertificate.verifyIssuedBy .standard (acmeAuthority acmeTrust) = .ok () ∧
    acmeDeviceCertificate.issuer = (acmeAuthority acmeTrust).subject ∧
    ∃ other : DistinguishedName, other.IsFull ∧ other.spelling ≠ acmeTrust.spelling ∧
      ∀ d : Certificate, d.issuer = other →
        (d.verifyIssuedBy .standard (acmeAuthority acmeTrust) = .ok () ↔
          d.isSignedBy .standard (acmeAuthority acmeTrust).publicKey = true) := by
  obtain ⟨passes_iff, clear, another⟩ :=
    verifyIssuedBy_names .standard ofDer_acmeDevice ofDer_acmeTrust
  have passes := passes_iff.2 ⟨rfl, isSignedBy_acmeDevice _, rfl⟩
  obtain ⟨other, full, differs, every⟩ := another (by rintro ⟨-, few⟩; revert few; decide)
  refine ⟨passes, (clear isClear_acmeTrust isClear_acmeTrust passes).2 rfl, other, full, differs,
    fun d named => ?_⟩
  rw [every d named]
  exact ⟨And.right, fun signed => ⟨rfl, signed⟩⟩

end Certificate

end FleetIdentity
