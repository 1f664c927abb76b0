import FleetIdentity.Proofs.Except
import FleetIdentity.Proofs.Pki.Requests

/-!
# The chain of trust

An organization that signs its own certificate is the authority of its devices. Its certificate and
key are read back as an authority, whose rebuilt name is the name that the certificate was issued
under; so the names in the certificates of its devices are those that a verifier compares, and the
signatures are made by the key that a verifier takes from the certificate.

Of the cryptography two things are relied on: the public half of a key is the standard one, and what
the organization's key signs verifies under its public half. Of the machine, that its clock is ten
years at least from the ends of the calendar, and that a text is shorter than its memory.
-/

namespace FleetIdentity

open Asn1

/-! ### Certificates in blocks -/

/-- What a key signs verifies under its public half. -/
def SignatureSuite.Verifies (suite : SignatureSuite) (key : PrivateKey) : Prop :=
  ∀ message, suite.verify key.signatureKind (suite.publicKey key) message
    (suite.sign key message) = true

section Issued

variable {suite : SignatureSuite} {r : CertificateRequest} {issuer : DistinguishedName}
  {key subjectKey : PrivateKey} {half : Octets}

/-- The certificate of a credential is read as it was signed. -/
theorem ofPem_credential (readable : r.Readable subjectKey half)
    (issuer_plain : DistinguishedName.IsPlain issuer)
    (fits : (CertificateIssuer.credential suite subjectKey (r.sign suite issuer key)).InMemory) :
    Certificate.ofPem (Utf8.ofString
      (CertificateIssuer.credential suite subjectKey (r.sign suite issuer key)).certificatePem) =
        .ok (r.certificate suite issuer key (subjectKey.info half)) := by
  have der_le := Pem.length_le_write ⟨Pem.certificateLabel, r.sign suite issuer key⟩
  have der_fits : Fits (r.sign suite issuer key) :=
    Nat.lt_trans (Nat.lt_of_le_of_lt der_le fits) (by decide)
  rw [Certificate.ofPem, CertificateIssuer.credential, Pem.parse?_encodeCertificate]
  simp only [if_true, Certificate.ofDer,
    CertificateRequest.read?_sign readable issuer_plain der_fits]

/-- What is signed with the key of an authority verifies against its certificate if it is signed
under a name that reads like the name in the certificate. -/
theorem verifyIssuedBy_of_keyed {authority : Certificate} (may : authority.isAuthority = true)
    (keyed : authority.publicKey = key.info (suite.publicKey key)) (verifies : suite.Verifies key)
    (publicKey : PublicKeyInfo) :
    (r.certificate suite issuer key publicKey).verifyIssuedBy suite authority =
      if issuer.text = authority.subjectText then .ok ()
      else .error (.otherIssuer issuer.text authority.subjectText) := by
  have signed : (r.certificate suite issuer key publicKey).isSignedBy suite authority.publicKey =
      true := by
    rw [Certificate.isSignedBy, keyed, CertificateRequest.certificate,
      Certificate.signatureKind?_info]
    exact verifies _
  have text_eq : (r.certificate suite issuer key publicKey).issuerText = issuer.text := rfl
  rw [Certificate.verifyIssuedBy, may, signed, text_eq, if_neg (by decide)]
  by_cases same : issuer.text = authority.subjectText
  · rw [if_neg (not_not_intro same), if_pos same]
    rfl
  · rw [if_pos same, if_neg same]

/-- What is signed under the name and with the key of an authority verifies against its
certificate. -/
theorem verifyIssuedBy_certificate {authority : Certificate}
    (may : authority.isAuthority = true) (named : authority.subject = issuer)
    (keyed : authority.publicKey = key.info (suite.publicKey key)) (verifies : suite.Verifies key)
    (publicKey : PublicKeyInfo) :
    (r.certificate suite issuer key publicKey).verifyIssuedBy suite authority = .ok () := by
  rw [verifyIssuedBy_of_keyed may keyed verifies publicKey]
  exact if_pos (congrArg DistinguishedName.text named.symm)

/-- Nothing verifies against a certificate that is not an authority's. -/
theorem verifyIssuedBy_of_not_authority {c device : Certificate}
    (not : device.isAuthority = false) :
    c.verifyIssuedBy suite device =
      .error (.chainVerification s!"'{device.subjectText}' is not a CA certificate") := by
  rw [Certificate.verifyIssuedBy, not]
  rfl

/-- The blocks of an authority and of its key are read back as that authority. -/
theorem CertificateAuthority.ofPem_eq_ok {certificate keyText : String} {c : Certificate}
    (certificate_read : Certificate.ofPem (Utf8.ofString certificate) = .ok c)
    (key_read : PrivateKey.ofPem suite keyText = .ok key) (may : c.isAuthority = true)
    (keyed : key.publicKeyInfo (suite.publicKey key) = c.publicKey.octets)
    {naming : Certificate → Option DistinguishedName} (named : naming c = some issuer) :
    ofPem suite certificate keyText naming = .ok ⟨c, key, issuer⟩ := by
  have parts : ofParts suite c key naming = .ok ⟨c, key, issuer⟩ := by
    rw [ofParts, if_neg (not_not_intro keyed), named]
  rw [ofPem, certificate_read]
  show (if (!c.isAuthority) = true then throw _ >>= _ else
    unavailable "CA key" (PrivateKey.ofPem suite keyText) >>= _) = _
  rw [may, key_read]
  exact parts

/-- What is certified with a name of texts signs under this name rebuilt. -/
theorem CertificateAuthority.issuerName?_certificate {texts : List (Oid × String)}
    (types : ∀ t ∈ texts, isUsableType t.1 = true)
    (named : r.subject = .ofAttributes (texts.map fun t => NameAttribute.ofText t.1 t.2))
    (publicKey : PublicKeyInfo) :
    issuerName? (r.certificate suite issuer key publicKey) =
      some (rebuild (texts.map fun t => NameAttribute.ofText t.1 t.2)) := by
  have attributes : usableAttributes? (r.certificate suite issuer key publicKey).subject = _ :=
    (congrArg usableAttributes? named).trans (usableAttributes?_ofTexts types)
  have extensions : hasUsableExtensions (r.certificate suite issuer key publicKey) = true :=
    CertificateRequest.hasUsableExtensions_certificate _ _ _ _ _
  rw [issuerName?, attributes]
  simp only [Option.bind_eq_bind, Option.bind_some]
  exact if_pos extensions

end Issued

/-! ### Organizations -/

namespace CertificateIssuer

variable {i : CertificateIssuer} {directory : Directory} {draw : Draw} {name country : String}
  {organization id : String} {authority : CertificateAuthority} {org device : IssuedCredential}
  {key : PrivateKey}

/-- What an organization asks its certificate for. -/
def organizationRequest (suite : SignatureSuite) (draw : Draw) (name country : String)
    (key : PrivateKey) : CertificateRequest :=
  .ofKey suite draw (organizationAttributes name country) true key

/-- What the certificate of a device is asked for. -/
def deviceRequest (suite : SignatureSuite) (draw : Draw) (organization id : String)
    (key : PrivateKey) : CertificateRequest :=
  .ofKey suite draw (deviceAttributes organization id) false key

/-- The certificate of an organization that signs its own, as it is read. -/
def organizationCertificate (suite : SignatureSuite) (draw : Draw) (name country : String)
    (key : PrivateKey) : Certificate :=
  (organizationRequest suite draw name country key).certificate suite
    (.ofAttributes (organizationAttributes name country)) key (key.info (suite.publicKey key))

theorem isAuthority_organization (suite : SignatureSuite) (draw : Draw) (name country : String)
    (key : PrivateKey) : (organizationCertificate suite draw name country key).isAuthority = true :=
  CertificateRequest.isAuthority_certificate (organizationRequest suite draw name country key) suite
    (.ofAttributes (organizationAttributes name country)) key (key.info (suite.publicKey key))

theorem subject_organization (suite : SignatureSuite) (draw : Draw) (name country : String)
    (key : PrivateKey) : (organizationCertificate suite draw name country key).subject =
      .ofAttributes (organizationAttributes name country) := rfl

theorem publicKey_organization (suite : SignatureSuite) (draw : Draw) (name country : String)
    (key : PrivateKey) : (organizationCertificate suite draw name country key).publicKey =
      key.info (suite.publicKey key) := rfl

theorem issueOrganization_eq_ok (self_signed : i.strategy = .selfSigned)
    (issued : i.issueOrganization directory draw name country = .ok org) :
    ∃ key, PrivateKey.generate i.algorithm draw = .ok key ∧
      org = credential i.suite key ((organizationRequest i.suite draw name country key).sign i.suite
        (.ofAttributes (organizationAttributes name country)) key) := by
  obtain ⟨key, generated, rest⟩ := bind_eq_ok_iff.1 issued
  rw [self_signed] at rest
  exact ⟨key, generated, (Except.ok.inj rest).symm⟩

theorem issueDevice_eq_ok (issued : i.issueDevice authority draw organization id = .ok device) :
    ∃ key, PrivateKey.generate i.algorithm draw = .ok key ∧
      device = credential i.suite key ((deviceRequest i.suite draw organization id key).sign i.suite
        authority.issuerName authority.key) := by
  obtain ⟨key, generated, rest⟩ := bind_eq_ok_iff.1 issued
  exact ⟨key, generated, (Except.ok.inj rest).symm⟩

/-- The name that an organization's authority issues under is the organization's own. -/
theorem issuerName?_organization (suite : SignatureSuite) (draw : Draw) (name country : String)
    (key : PrivateKey) :
    CertificateAuthority.issuerName? (organizationCertificate suite draw name country key) =
      some (.ofAttributes (organizationAttributes name country)) := by
  have named : (organizationRequest suite draw name country key).subject =
      .ofAttributes ((organizationTexts name country).map fun t => NameAttribute.ofText t.1 t.2) :=
    congrArg DistinguishedName.ofAttributes (organizationAttributes_eq name country)
  have regular := regular_organizationTexts name country
  rw [organizationCertificate, CertificateAuthority.issuerName?_certificate
    (fun t mem => regular.usable t.1 (List.mem_map_of_mem mem)) named, regular.rebuild_ofTexts,
    ← organizationAttributes_eq]

end CertificateIssuer

/-! ### The chain -/

/-- The credential of a device, read as a certificate and a key, chains to the certificate of an
authority. -/
structure IssuedCredential.ChainsTo (device : IssuedCredential) (suite : SignatureSuite)
    (authority : Certificate) (organization id : String) (c : Certificate) (key : PrivateKey) :
    Prop where
  certificate_read : Certificate.ofPem (Utf8.ofString device.certificatePem) = .ok c
  key_read : PrivateKey.ofPem suite device.privateKeyPem = .ok key
  commonName_eq : c.commonName = some id
  organization_eq : c.organization = some organization
  not_authority : c.isAuthority = false
  /-- The certificate is about the public half of the key that came with it. -/
  publicKey_eq : c.publicKey.octets = key.publicKeyInfo (suite.publicKey key)
  verifies : c.verifyIssuedBy suite authority = .ok ()
  /-- A device issues nothing, and so not its own authority. -/
  reverse_refused : authority.verifyIssuedBy suite c =
    .error (.chainVerification s!"'{c.subjectText}' is not a CA certificate")

namespace CertificateIssuer

variable {i : CertificateIssuer} {draw : Draw} {name country organization id : String}
  {device : IssuedCredential} {key : PrivateKey}

theorem isPlain_organization (name country : String) : DistinguishedName.IsPlain
    (.ofAttributes (organizationAttributes name country)) := by
  rw [organizationAttributes_eq]
  exact DistinguishedName.isPlain_ofTexts _

theorem organization_verifies {suite : SignatureSuite} (verifies : suite.Verifies key) :
    (organizationCertificate suite draw name country key).verifyIssuedBy suite
      (organizationCertificate suite draw name country key) = .ok () :=
  verifyIssuedBy_certificate (isAuthority_organization suite draw name country key)
    (subject_organization suite draw name country key)
    (publicKey_organization suite draw name country key) verifies (key.info (suite.publicKey key))

/-- What is issued under the authority of an organization chains to its certificate. -/
theorem chainsTo_of_issueDevice {orgDraw : Draw}
    (halves : i.suite.publicKey = SignatureSuite.publicKeyOf) (verifies : i.suite.Verifies key)
    (timely : draw.InCalendar) (fits : device.InMemory)
    (issued : i.issueDevice ⟨organizationCertificate i.suite orgDraw name country key, key,
      .ofAttributes (organizationAttributes name country)⟩ draw organization id = .ok device) :
    ∃ c deviceKey, device.ChainsTo i.suite
      (organizationCertificate i.suite orgDraw name country key) organization id c deviceKey := by
  obtain ⟨deviceKey, generated, rfl⟩ := issueDevice_eq_ok issued
  have half_fits : PrivateKey.HalfFits (i.suite.publicKey deviceKey) := by
    rw [halves]
    exact PrivateKey.halfFits_of_generate generated
  have not_authority := CertificateRequest.isAuthority_certificate
    (deviceRequest i.suite draw organization id deviceKey) i.suite
    (.ofAttributes (organizationAttributes name country)) key
    (deviceKey.info (i.suite.publicKey deviceKey))
  exact ⟨_, deviceKey, {
    certificate_read := ofPem_credential (CertificateRequest.readable_ofKey timely
      (deviceAttributes organization id) (deviceAttributes_eq organization id) false deviceKey)
      (isPlain_organization name country) fits
    key_read := PrivateKey.ofPem_encodeKey (PrivateKey.isUsable_of_generate generated) half_fits
    commonName_eq := NameAttribute.plainText?_ofText Oid.commonName id
    organization_eq := NameAttribute.plainText?_ofText Oid.organization organization
    not_authority
    publicKey_eq := rfl
    verifies := verifyIssuedBy_certificate
      (isAuthority_organization i.suite orgDraw name country key)
      (subject_organization i.suite orgDraw name country key)
      (publicKey_organization i.suite orgDraw name country key) verifies
      (deviceKey.info (i.suite.publicKey deviceKey))
    reverse_refused := verifyIssuedBy_of_not_authority not_authority }⟩

/-- An organization that signs its own certificate is read back as an authority under the very name
that its certificate was issued with. It verifies against itself, and what is issued under it chains
to its certificate. -/
theorem chain_of_trust {directory : Directory} {org : IssuedCredential}
    (self_signed : i.strategy = .selfSigned)
    (issued : i.issueOrganization directory draw name country = .ok org)
    (halves : i.suite.publicKey = SignatureSuite.publicKeyOf)
    (verifies : ∀ key, PrivateKey.generate i.algorithm draw = .ok key → i.suite.Verifies key)
    (timely : draw.InCalendar) (fits : org.InMemory) :
    ∃ authority,
      CertificateAuthority.ofPem i.suite org.certificatePem org.privateKeyPem = .ok authority ∧
      Certificate.ofPem (Utf8.ofString org.certificatePem) = .ok authority.certificate ∧
      PrivateKey.generate i.algorithm draw = .ok authority.key ∧
      authority.issuerName = .ofAttributes (organizationAttributes name country) ∧
      authority.certificate.verifyIssuedBy i.suite authority.certificate = .ok () ∧
      ∀ (j : CertificateIssuer) (later : Draw) (organization id : String)
        (device : IssuedCredential), j.suite = i.suite →
        j.issueDevice authority later organization id = .ok device →
        later.InCalendar → device.InMemory →
        ∃ c key, device.ChainsTo i.suite authority.certificate organization id c key := by
  obtain ⟨key, generated, rfl⟩ := issueOrganization_eq_ok self_signed issued
  have half_fits : PrivateKey.HalfFits (i.suite.publicKey key) := by
    rw [halves]
    exact PrivateKey.halfFits_of_generate generated
  have certificate_read := ofPem_credential (CertificateRequest.readable_ofKey timely
    (organizationAttributes name country) (organizationAttributes_eq name country) true key)
    (isPlain_organization name country) fits
  have key_read := PrivateKey.ofPem_encodeKey (PrivateKey.isUsable_of_generate generated)
    half_fits
  refine ⟨⟨organizationCertificate i.suite draw name country key, key,
    .ofAttributes (organizationAttributes name country)⟩, ?_, certificate_read, generated, rfl,
    organization_verifies (verifies key generated), ?_⟩
  · exact CertificateAuthority.ofPem_eq_ok certificate_read key_read
      (isAuthority_organization i.suite draw name country key) rfl
      (issuerName?_organization i.suite draw name country key)
  -- Devices may be issued by another issuer, later and with keys of another algorithm.
  · intro j later organization id device same issued_device in_calendar device_fits
    have halves_j : j.suite.publicKey = SignatureSuite.publicKeyOf := same ▸ halves
    have verifies_j : j.suite.Verifies key := same ▸ verifies key generated
    rw [← same] at issued_device ⊢
    exact chainsTo_of_issueDevice halves_j verifies_j in_calendar device_fits issued_device

end CertificateIssuer

/-! ### An organization with a device -/

namespace SignatureSuite

/-- The standard suite, but that of one key it takes exactly the signatures that the key makes. -/
def trusting (signer : PrivateKey) : SignatureSuite where
  publicKey := publicKeyOf
  sign := signWith
  verify kind half message signature :=
    if kind = signer.signatureKind ∧ half = publicKeyOf signer then
      signature == signWith signer message
    else verifyWith kind half message signature

theorem verifies_trusting (signer : PrivateKey) : (trusting signer).Verifies signer :=
  fun message => (if_pos ⟨rfl, rfl⟩).trans (beq_self_eq_true (signWith signer message))

/-- A signature on a curve is two numbers below the order of its base point. -/
theorem length_signWith_le (name : NamedCurve) (secret : Nat) (message : Octets) :
    (signWith (.curve name secret) message).length ≤ 110 := by
  have number (n : Nat) : (writeInteger (n % name.curve.order)).length ≤ 53 := by
    have order_pos : 0 < name.curve.order := by
      cases name <;> decide
    have order_le : name.curve.order ≤ 256 ^ 48 := by
      cases name <;> decide
    have below : n % name.curve.order < 256 ^ 48 :=
      Nat.lt_of_lt_of_le (Nat.mod_lt n order_pos) order_le
    have content : (unsigned (n % name.curve.order)).length ≤ 49 :=
      Nat.le_trans (length_unsigned_le _) (Nat.succ_le_succ (Octets.width_le (by decide) below))
    have written := length_write_le Tag.integer.octet (Nat.lt_of_le_of_lt content (by decide))
    exact Nat.le_trans written (by omega)
  obtain ⟨r, s, sign_eq⟩ : ∃ r s, signWith (.curve name secret) message = Asn1.sequence
      [writeInteger (r % name.curve.order), writeInteger (s % name.curve.order)] :=
    ⟨_, _, rfl⟩
  have content : ([writeInteger (r % name.curve.order),
      writeInteger (s % name.curve.order)].flatten).length ≤ 106 := by
    have first := number r
    have second := number s
    simp only [List.flatten_cons, List.flatten_nil, List.append_nil, List.length_append]
    omega
  rw [sign_eq]
  exact Nat.le_trans (length_write_le _ (Nat.lt_of_le_of_lt content (by decide))) (by omega)

end SignatureSuite

/-- A certificate with little to sign is a text that fits in memory. -/
theorem inMemory_of_length_le {suite : SignatureSuite} {r : CertificateRequest}
    {issuer : DistinguishedName} {key subjectKey : PrivateKey}
    (few : (r.writeSigned issuer key.signatureKind).length ≤ 4096)
    (short : (suite.sign key (r.writeSigned issuer key.signatureKind)).length ≤ 110) :
    (CertificateIssuer.credential suite subjectKey (r.sign suite issuer key)).InMemory := by
  have algorithm_le : (CertificateRequest.writeAlgorithm key.signatureKind).length ≤ 15 := by
    cases key.signatureKind with
    | rsa digest => cases digest <;> decide
    | ecdsa curve digest => cases digest <;> exact of_decide_eq_true rfl
    | ed25519 => decide
  have der_le : (r.sign suite issuer key).length ≤ 4300 := by
    rw [CertificateRequest.sign]
    generalize r.writeSigned issuer key.signatureKind = signed at few short
    generalize suite.sign key signed = signature at short
    have bits := length_write_le Tag.bitString.octet
      (show (0 :: signature : Octets).length < 2 ^ 16 by rw [List.length_cons]; omega)
    rw [List.length_cons] at bits
    have content : ([signed, CertificateRequest.writeAlgorithm key.signatureKind,
        writeBits signature].flatten).length ≤ 4290 := by
      simp only [List.flatten_cons, List.flatten_nil, List.append_nil, List.length_append,
        writeBits, writeTag]
      omega
    exact Nat.le_trans (length_write_le _ (Nat.lt_of_le_of_lt content (by decide))) (by omega)
  have label : (Utf8.ofString Pem.certificateLabel).length = 11 := by decide
  have text_le := Pem.length_write_le ⟨Pem.certificateLabel, r.sign suite issuer key⟩
  rw [label] at text_le
  have bound : 8 * (r.sign suite issuer key).length + 2 * 11 + 32 < 2 ^ 63 := by omega
  exact Nat.lt_of_le_of_lt text_le bound

namespace CertificateIssuer

/-- The draw of an organization in November 2023. -/
def acmeDraw : Draw := ⟨(4, 0), [1], 1700000000⟩

/-- The key that the organization draws. -/
def acmeKey : PrivateKey := .curve .p256 (Ecdsa.scalarOf Weierstrass.p256 4)

/-- An issuer of keys on the curve, for organizations that sign their own certificates. -/
def acmeIssuer : CertificateIssuer where
  suite := .trusting acmeKey
  strategy := .selfSigned
  algorithm := .ecdsaP256

/-- The draw of the organization's first device. -/
def deviceDraw : Draw := ⟨(6, 0), [2], 1700086400⟩

theorem length_sign_acme (message : Octets) :
    (acmeIssuer.suite.sign acmeKey message).length ≤ 110 :=
  SignatureSuite.length_signWith_le .p256 (Ecdsa.scalarOf Weierstrass.p256 4) message

theorem generate_acme : PrivateKey.generate acmeIssuer.algorithm acmeDraw = .ok acmeKey := rfl

theorem acmeDraw_inCalendar : acmeDraw.InCalendar :=
  ⟨⟨by decide, by decide⟩, by decide, by decide⟩

theorem deviceDraw_inCalendar : deviceDraw.InCalendar :=
  ⟨⟨by decide, by decide⟩, by decide, by decide⟩

theorem chain_of_trust_acme : ∃ org authority device c key,
    acmeIssuer.issueOrganization [] acmeDraw "acme" "GB" = .ok org ∧
    CertificateAuthority.ofPem acmeIssuer.suite org.certificatePem org.privateKeyPem =
      .ok authority ∧
    acmeIssuer.issueDevice authority deviceDraw "acme" "drone-1" = .ok device ∧
    device.ChainsTo acmeIssuer.suite authority.certificate "acme" "drone-1" c key := by
  have org_fits : (credential acmeIssuer.suite acmeKey
      ((organizationRequest acmeIssuer.suite acmeDraw "acme" "GB" acmeKey).sign acmeIssuer.suite
        (.ofAttributes (organizationAttributes "acme" "GB")) acmeKey)).InMemory :=
    inMemory_of_length_le (by decide +kernel) (length_sign_acme _)
  have issued : acmeIssuer.issueOrganization [] acmeDraw "acme" "GB" = .ok (credential
      acmeIssuer.suite acmeKey ((organizationRequest acmeIssuer.suite acmeDraw "acme" "GB"
        acmeKey).sign acmeIssuer.suite (.ofAttributes (organizationAttributes "acme" "GB"))
          acmeKey)) := by
    rw [issueOrganization, generate_acme]
    rfl
  have verifies : ∀ key, PrivateKey.generate acmeIssuer.algorithm acmeDraw = .ok key →
      acmeIssuer.suite.Verifies key := by
    intro key generated
    obtain rfl := Except.ok.inj (generate_acme.symm.trans generated)
    exact SignatureSuite.verifies_trusting acmeKey
  obtain ⟨authority, read, -, generated, name_eq, -, devices⟩ :=
    chain_of_trust rfl issued rfl verifies acmeDraw_inCalendar org_fits
  have key_eq : acmeKey = authority.key := Except.ok.inj (generate_acme.symm.trans generated)
  have device_fits : (credential acmeIssuer.suite (.curve .p256 (Ecdsa.scalarOf Weierstrass.p256 6))
      ((deviceRequest acmeIssuer.suite deviceDraw "acme" "drone-1"
        (.curve .p256 (Ecdsa.scalarOf Weierstrass.p256 6))).sign acmeIssuer.suite
          (.ofAttributes (organizationAttributes "acme" "GB")) acmeKey)).InMemory :=
    inMemory_of_length_le (by decide +kernel) (length_sign_acme _)
  rw [key_eq, ← name_eq] at device_fits
  obtain ⟨c, key, chains⟩ := devices acmeIssuer deviceDraw "acme" "drone-1" _ rfl rfl
    deviceDraw_inCalendar device_fits
  exact ⟨_, authority, _, c, key, issued, read, rfl, chains⟩

end CertificateIssuer

end FleetIdentity
