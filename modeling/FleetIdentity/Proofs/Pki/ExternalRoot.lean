import FleetIdentity.Proofs.Pki.ChainOfTrust
import FleetIdentity.Proofs.Pki.RebuiltNames

/-!
# Organizations below an authority from outside

The certificate and the key of the authority are files that come from elsewhere. Whatever
certificate is accepted, its public key is the public half of the key in the other file, so that
signatures verify; and the name that is signed under is what a library makes of the name in the
certificate. Whatever library that is, an organization verifies against the authority exactly if the
two names read alike. With the one that is taken if no other is given, they do exactly if no type of
attribute is repeated in the authority's name and none is a longer form of one that has a short
name.
-/

namespace FleetIdentity

open Asn1

/-! ### The public key of a certificate that is accepted -/

namespace Certificate

theorem readVersion?_length_le {octets rest : Octets} {version : Nat}
    (read : readVersion? octets = some (version, rest)) : rest.length ≤ octets.length := by
  rw [readVersion?] at read
  split at read
  · split at read
    · cases read
      exact Nat.le_refl _
    · cases read
  · next e after element =>
    split at read
    · obtain ⟨⟨content, _⟩, _, read⟩ := Option.bind_eq_some_iff.1 read
      have shorter := (element?_bounds element).2
      -- How the number is written decides whether it is read, and not what is left.
      dsimp only at read
      split at read
      all_goals
        split at read
        · cases read
        · cases read
          exact shorter
    · cases read
      exact Nat.le_refl _

theorem algorithm_length_le {octets rest : Octets} {a : AlgorithmIdentifier}
    (read : AlgorithmIdentifier.read? octets = some (a, rest)) : rest.length ≤ octets.length := by
  obtain ⟨⟨content, after⟩, expected, read⟩ := Option.bind_eq_some_iff.1 read
  obtain ⟨⟨oid, parameters⟩, _, read⟩ := Option.bind_eq_some_iff.1 read
  have shorter := (expect?_bounds expected).2
  dsimp only at read
  split at read
  · cases read
    exact shorter
  · obtain ⟨_, _, read⟩ := Option.bind_eq_some_iff.1 read
    cases read
    exact shorter

theorem name_length_le {octets rest : Octets} {name : DistinguishedName}
    (read : DistinguishedName.read? octets = some (name, rest)) : rest.length ≤ octets.length := by
  obtain ⟨⟨content, after⟩, expected, read⟩ := Option.bind_eq_some_iff.1 read
  cases read
  exact (expect?_bounds expected).2

/-- The public key of a certificate is read from few octets: they are part of the signed part, whose
length could be read. -/
theorem publicKey_of_read? {der : Octets} {c : Certificate} (read : read? der = some c) :
    ∃ octets rest, Fits octets ∧ PublicKeyInfo.read? octets = some (c.publicKey, rest) := by
  obtain ⟨⟨content, _⟩, _, read⟩ := Option.bind_eq_some_iff.1 read
  obtain ⟨⟨signed, behind⟩, signed_read, read⟩ := Option.bind_eq_some_iff.1 read
  obtain ⟨⟨version, more₁⟩, version_read, read⟩ := Option.bind_eq_some_iff.1 read
  obtain ⟨⟨serial, more₂⟩, serial_read, read⟩ := Option.bind_eq_some_iff.1 read
  obtain ⟨⟨algorithm, more₃⟩, algorithm_read, read⟩ := Option.bind_eq_some_iff.1 read
  obtain ⟨⟨issuer, more₄⟩, issuer_read, read⟩ := Option.bind_eq_some_iff.1 read
  obtain ⟨⟨validity, more₅⟩, validity_read, read⟩ := Option.bind_eq_some_iff.1 read
  obtain ⟨⟨notBefore, validity₂⟩, _, read⟩ := Option.bind_eq_some_iff.1 read
  obtain ⟨⟨notAfter, _⟩, _, read⟩ := Option.bind_eq_some_iff.1 read
  obtain ⟨⟨subject, more₆⟩, subject_read, read⟩ := Option.bind_eq_some_iff.1 read
  obtain ⟨⟨publicKey, more₇⟩, publicKey_read, read⟩ := Option.bind_eq_some_iff.1 read
  obtain ⟨more₈, _, read⟩ := Option.bind_eq_some_iff.1 read
  obtain ⟨more₉, _, read⟩ := Option.bind_eq_some_iff.1 read
  obtain ⟨extensions, _, read⟩ := Option.bind_eq_some_iff.1 read
  obtain ⟨⟨signatureAlgorithm, last⟩, _, read⟩ := Option.bind_eq_some_iff.1 read
  obtain ⟨⟨signature, _⟩, _, made⟩ := Option.bind_eq_some_iff.1 read
  have same : publicKey = c.publicKey := congrArg Certificate.publicKey (Option.some.inj made)
  have few := (expect?_bounds signed_read).1
  have le₁ := readVersion?_length_le version_read
  have le₂ := (expect?_bounds serial_read).2
  have le₃ := algorithm_length_le algorithm_read
  have le₄ := name_length_le issuer_read
  have le₅ := (expect?_bounds validity_read).2
  have le₆ := name_length_le subject_read
  refine ⟨more₆, more₇, ?_, same ▸ publicKey_read⟩
  unfold Fits
  omega

/-- A public key whose octets are those of a private key's public half is read as that half. -/
theorem publicKey_eq_info {der : Octets} {c : Certificate} (read : read? der = some c)
    {key : PrivateKey} {half : Octets} (keyed : key.publicKeyInfo half = c.publicKey.octets) :
    c.publicKey = key.info half := by
  obtain ⟨octets, rest, fits, info_read⟩ := publicKey_of_read? read
  have front : c.publicKey.octets <+: octets := by
    obtain ⟨⟨content, after⟩, _, info_read⟩ := Option.bind_eq_some_iff.1 info_read
    obtain ⟨⟨algorithm, more⟩, _, info_read⟩ := Option.bind_eq_some_iff.1 info_read
    obtain ⟨⟨bits, extra⟩, _, made⟩ := Option.bind_eq_some_iff.1 info_read
    obtain ⟨same, _⟩ := Prod.mk.inj (Option.some.inj made)
    rw [← same]
    exact (List.take_prefix _ _).trans (List.take_prefix _ _)
  rw [← keyed] at front
  obtain ⟨behind, rfl⟩ := front
  have half_fits : Fits (key.publicKeyInfo half) :=
    fits.of_le (by rw [List.length_append]; exact Nat.le_add_right _ _)
  have again := key.reads_publicKeyInfo half_fits behind
  exact (Prod.mk.inj (Option.some.inj (info_read.symm.trans again))).1

theorem ofPem_eq_ok {octets : Octets} {c : Certificate} (read : ofPem octets = .ok c) :
    ∃ der, read? der = some c := by
  rw [ofPem] at read
  split at read
  · cases read
  · next block _ =>
    split at read
    · rw [ofDer] at read
      split at read
      · next c' known =>
        cases read
        exact ⟨block.content, known⟩
      · cases read
    · cases read

end Certificate

/-! ### The authority in a directory -/

namespace CertificateAuthority

variable {suite : SignatureSuite} {authority : CertificateAuthority}

theorem unavailable_eq_ok {α : Type} {what : String} {outcome : Except PkiError α} {a : α}
    (h : unavailable what outcome = .ok a) : outcome = .ok a := by
  cases outcome with
  | ok b => exact h
  | error e => cases h

/-- An authority as it was made of a certificate and a key. -/
structure Accepted (suite : SignatureSuite) (naming : Certificate → Option DistinguishedName)
    (certificate : String) (authority : CertificateAuthority) : Prop where
  certificate_read : Certificate.ofPem (Utf8.ofString certificate) = .ok authority.certificate
  may : authority.certificate.isAuthority = true
  keyed : authority.certificate.publicKey = authority.key.info (suite.publicKey authority.key)
  named : naming authority.certificate = some authority.issuerName

variable {naming : Certificate → Option DistinguishedName}

theorem accepted_of_ofPem {certificate keyText : String}
    (made : ofPem suite certificate keyText naming = .ok authority) :
    Accepted suite naming certificate authority := by
  obtain ⟨c, certificate_read, made⟩ := bind_eq_ok_iff.1 made
  have read := unavailable_eq_ok certificate_read
  dsimp only at made
  split at made
  · cases made
  · next may =>
    obtain ⟨key, _, made⟩ := bind_eq_ok_iff.1 made
    rw [ofParts] at made
    split at made
    · cases made
    · next keyed =>
      split at made
      · cases made
      · next issuerName named =>
        cases made
        obtain ⟨der, der_read⟩ := Certificate.ofPem_eq_ok read
        exact ⟨read, by simpa using may,
          Certificate.publicKey_eq_info der_read (not_not.1 keyed), named⟩

theorem load_eq_ok {path : String} {directory : Directory}
    (loaded : load suite path directory naming = .ok authority) :
    ∃ certificate, directory.lookup authorityCertificateFile = some certificate ∧
      Accepted suite naming certificate authority := by
  obtain ⟨certificate, certificate_found, loaded⟩ := bind_eq_ok_iff.1 loaded
  obtain ⟨keyText, _, loaded⟩ := bind_eq_ok_iff.1 loaded
  refine ⟨certificate, ?_, accepted_of_ofPem loaded⟩
  rw [fileText] at certificate_found
  split at certificate_found
  · next text found =>
    cases certificate_found
    exact found
  · cases certificate_found

end CertificateAuthority

/-! ### What is issued below it -/

namespace CertificateIssuer

variable {i : CertificateIssuer} {directory : Directory} {draw : Draw} {path : String}
  {authority : CertificateAuthority} {key : PrivateKey}

/-- The credential of an organization below an authority. -/
def credentialBelow (suite : SignatureSuite) (authority : CertificateAuthority) (draw : Draw)
    (name country : String) (key : PrivateKey) : IssuedCredential :=
  credential suite key ((organizationRequest suite draw name country key).sign suite
    authority.issuerName authority.key)

theorem issueOrganization_external (external : i.strategy = .externalRoot path)
    (loaded : CertificateAuthority.load i.suite path directory i.naming = .ok authority)
    (generated : PrivateKey.generate i.algorithm draw = .ok key) (name country : String) :
    i.issueOrganization directory draw name country =
      .ok (credentialBelow i.suite authority draw name country key) := by
  rw [issueOrganization, generated]
  simp only [bind, Except.bind, external, loaded]
  rfl

/-- The certificate of an organization below an accepted authority is read, and it verifies against
that of the authority if the name that was signed under reads like the name there. -/
theorem ofPem_credentialBelow {suite : SignatureSuite} {certificate : String}
    {naming : Certificate → Option DistinguishedName}
    (accepted : CertificateAuthority.Accepted suite naming certificate authority)
    (plain : DistinguishedName.IsPlain authority.issuerName)
    (verifies : suite.Verifies authority.key) (timely : draw.InCalendar) {name country : String}
    (fits : (credentialBelow suite authority draw name country key).InMemory) :
    ∃ c, Certificate.ofPem (Utf8.ofString
        (credentialBelow suite authority draw name country key).certificatePem) = .ok c ∧
      c.verifyIssuedBy suite authority.certificate =
        if authority.issuerName.text = authority.certificate.subjectText then .ok ()
        else .error (.otherIssuer authority.issuerName.text authority.certificate.subjectText) := by
  have readable : (organizationRequest suite draw name country key).Readable key
      (suite.publicKey key) :=
    CertificateRequest.readable_ofKey timely (organizationAttributes name country)
      (organizationAttributes_eq name country) true key
  refine ⟨_, ofPem_credential readable plain fits, ?_⟩
  rw [verifyIssuedBy_of_keyed accepted.may accepted.keyed verifies]

/-- Below an authority from outside an organization is issued a certificate whenever the authority
is accepted. It verifies against the certificate in the authority's file if the name that a library
makes of the name there reads like it, and else it does not. The library need only make names that
are read as they were written. With the one that is taken if no other is given, the names read alike
exactly if no type is repeated and none is a longer form of one that has a short name. -/
theorem externalRoot_chain (external : i.strategy = .externalRoot path)
    (loaded : CertificateAuthority.load i.suite path directory i.naming = .ok authority)
    (plain : ∀ c made, i.naming c = some made → DistinguishedName.IsPlain made)
    (verifies : i.suite.Verifies authority.key)
    (generated : PrivateKey.generate i.algorithm draw = .ok key) (timely : draw.InCalendar)
    (name country : String) :
    ∃ certificate org, directory.lookup authorityCertificateFile = some certificate ∧
      Certificate.ofPem (Utf8.ofString certificate) = .ok authority.certificate ∧
      i.naming authority.certificate = some authority.issuerName ∧
      i.issueOrganization directory draw name country = .ok org ∧
      (org.InMemory → ∃ c, Certificate.ofPem (Utf8.ofString org.certificatePem) = .ok c ∧
        c.verifyIssuedBy i.suite authority.certificate =
          if authority.issuerName.text = authority.certificate.subjectText then .ok ()
          else .error (.otherIssuer authority.issuerName.text authority.certificate.subjectText)) ∧
      (i.naming = CertificateAuthority.issuerName? →
        (authority.issuerName.text = authority.certificate.subjectText ↔
          (authority.certificate.subject.flatten.map (·.type.toArcs)).Nodup ∧
            ∀ a ∈ authority.certificate.subject.flatten,
              a.type.shortest ∈ NameAttribute.shortNames.map Prod.fst →
                a.type.shortest = a.type)) := by
  obtain ⟨certificate, found, accepted⟩ := CertificateAuthority.load_eq_ok loaded
  refine ⟨certificate, _, found, accepted.certificate_read, accepted.named,
    issueOrganization_external external loaded generated name country, fun fits => ?_, ?_⟩
  · exact ofPem_credentialBelow accepted (plain _ _ accepted.named) verifies timely fits
  · intro standard
    exact CertificateAuthority.text_issuerName?_eq_iff (standard ▸ accepted.named)

/-! ### Two authorities from outside -/

section Root

variable {suite : SignatureSuite} {texts : List (Oid × String)}

/-- The attributes with some types and texts. -/
def rootAttributes (texts : List (Oid × String)) : List NameAttribute :=
  texts.map fun t => NameAttribute.ofText t.1 t.2

/-- What an authority with these attributes asks its certificate for. -/
def rootRequest (suite : SignatureSuite) (draw : Draw) (texts : List (Oid × String))
    (key : PrivateKey) : CertificateRequest :=
  .ofKey suite draw (rootAttributes texts) true key

/-- The certificate, signed by itself, and the key of the authority. -/
def rootCredential (suite : SignatureSuite) (draw : Draw) (texts : List (Oid × String))
    (key : PrivateKey) : IssuedCredential :=
  credential suite key
    ((rootRequest suite draw texts key).sign suite (.ofAttributes (rootAttributes texts)) key)

/-- The directory with the files of a credential. -/
def credentialDirectory (c : IssuedCredential) : Directory :=
  [(authorityCertificateFile, c.certificatePem), (authorityKeyFile, c.privateKeyPem)]

theorem load_credentialDirectory (c : IssuedCredential) :
    CertificateAuthority.load suite path (credentialDirectory c) =
      CertificateAuthority.ofPem suite c.certificatePem c.privateKeyPem := by
  have other : (authorityKeyFile == authorityCertificateFile) = false := by decide
  have certificate : CertificateAuthority.fileText path (credentialDirectory c)
      authorityCertificateFile = .ok c.certificatePem := by
    rw [CertificateAuthority.fileText, credentialDirectory, List.lookup_cons_self]
  have key : CertificateAuthority.fileText path (credentialDirectory c) authorityKeyFile =
      .ok c.privateKeyPem := by
    rw [CertificateAuthority.fileText, credentialDirectory, List.lookup_cons, other,
      List.lookup_cons_self]
  rw [CertificateAuthority.load, certificate, key]
  rfl

/-- The authority, as it is read. -/
def rootAuthority (suite : SignatureSuite) (draw : Draw) (texts : List (Oid × String))
    (key : PrivateKey) : CertificateAuthority where
  certificate := (rootRequest suite draw texts key).certificate suite
    (.ofAttributes (rootAttributes texts)) key (key.info (suite.publicKey key))
  key := key
  issuerName := CertificateAuthority.rebuild (rootAttributes texts)

/-- The files of an authority that signs its own certificate are read back as that authority. -/
theorem load_root (types : ∀ t ∈ texts, CertificateAuthority.isUsableType t.1 = true)
    (halves : suite.publicKey = SignatureSuite.publicKeyOf)
    {algorithm : KeyAlgorithm} (generated : PrivateKey.generate algorithm draw = .ok key)
    (timely : draw.InCalendar) (fits : (rootCredential suite draw texts key).InMemory) :
    CertificateAuthority.load suite path
      (credentialDirectory (rootCredential suite draw texts key)) =
        .ok (rootAuthority suite draw texts key) := by
  have half_fits : PrivateKey.HalfFits (suite.publicKey key) := by
    rw [halves]
    exact PrivateKey.halfFits_of_generate generated
  rw [load_credentialDirectory]
  exact CertificateAuthority.ofPem_eq_ok
    (ofPem_credential (CertificateRequest.readable_ofKey timely (rootAttributes texts) rfl true key)
      (DistinguishedName.isPlain_ofTexts texts) fits)
    (PrivateKey.ofPem_encodeKey (PrivateKey.isUsable_of_generate generated) half_fits)
    (CertificateRequest.isAuthority_certificate _ _ _ _ _) rfl
    (CertificateAuthority.issuerName?_certificate types rfl _)

end Root

/-- The issuer of organizations below the authority in the directory `ca`. -/
def belowIssuer : CertificateIssuer := { acmeIssuer with strategy := .externalRoot "ca" }

/-- The credential of an authority with the key of `acme`. -/
def acmeRoot (texts : List (Oid × String)) : IssuedCredential :=
  rootCredential acmeIssuer.suite acmeDraw texts acmeKey

/-- The key of an organization below it. -/
def belowKey : PrivateKey := .curve .p256 (Ecdsa.scalarOf Weierstrass.p256 6)

theorem load_acmeRoot {texts : List (Oid × String)}
    (types : ∀ t ∈ texts, CertificateAuthority.isUsableType t.1 = true)
    (few : ((rootRequest acmeIssuer.suite acmeDraw texts acmeKey).writeSigned
      (.ofAttributes (rootAttributes texts)) acmeKey.signatureKind).length ≤ 4096) :
    CertificateAuthority.load belowIssuer.suite "ca" (credentialDirectory (acmeRoot texts)) =
      .ok (rootAuthority acmeIssuer.suite acmeDraw texts acmeKey) :=
  load_root types rfl generate_acme acmeDraw_inCalendar
    (inMemory_of_length_le few (length_sign_acme _))

/-- An authority with a common name and an organization. -/
def distinctRoot : List (Oid × String) := [(Oid.commonName, "Fleet"), (Oid.organization, "Fleet")]

/-- An authority with two common names. -/
def repeatedRoot : List (Oid × String) := [(Oid.commonName, "First"), (Oid.commonName, "Second")]

theorem externalRoot_chain_distinct : ∃ authority org c,
    CertificateAuthority.load belowIssuer.suite "ca" (credentialDirectory (acmeRoot distinctRoot)) =
      .ok authority ∧
    belowIssuer.issueOrganization (credentialDirectory (acmeRoot distinctRoot)) deviceDraw "acme"
      "NL" = .ok org ∧
    Certificate.ofPem (Utf8.ofString org.certificatePem) = .ok c ∧
    c.verifyIssuedBy belowIssuer.suite authority.certificate = .ok () := by
  have types : ∀ t ∈ distinctRoot, CertificateAuthority.isUsableType t.1 = true := by decide
  have loaded := load_acmeRoot types (by decide +kernel)
  have generated : PrivateKey.generate belowIssuer.algorithm deviceDraw = .ok belowKey := rfl
  have external : belowIssuer.strategy = .externalRoot "ca" := rfl
  obtain ⟨_, org, -, -, -, issued, chain, alike⟩ := externalRoot_chain external loaded
    (fun _ _ => CertificateAuthority.isPlain_issuerName?)
    (SignatureSuite.verifies_trusting acmeKey) generated deviceDraw_inCalendar "acme" "NL"
  have fits : (credentialBelow belowIssuer.suite (rootAuthority acmeIssuer.suite acmeDraw
      distinctRoot acmeKey) deviceDraw "acme" "NL" belowKey).InMemory :=
    inMemory_of_length_le (by decide +kernel) (length_sign_acme _)
  have org_eq := Except.ok.inj
    ((issueOrganization_external external loaded generated "acme" "NL").symm.trans issued)
  obtain ⟨c, read, checked⟩ := chain (org_eq ▸ fits)
  rw [if_pos ((alike rfl).2 (by decide +kernel))] at checked
  exact ⟨_, org, c, loaded, issued, read, checked⟩

/-- The authority with two common names is accepted, and what is issued below it does not verify
against its certificate. -/
theorem externalRoot_repeated_refused : ∃ authority org c,
    CertificateAuthority.load belowIssuer.suite "ca" (credentialDirectory (acmeRoot repeatedRoot)) =
      .ok authority ∧
    Certificate.ofPem (Utf8.ofString (acmeRoot repeatedRoot).certificatePem) =
      .ok authority.certificate ∧
    belowIssuer.suite.Verifies authority.key ∧
    belowIssuer.issueOrganization (credentialDirectory (acmeRoot repeatedRoot)) deviceDraw "acme"
      "NL" = .ok org ∧
    Certificate.ofPem (Utf8.ofString org.certificatePem) = .ok c ∧
    c.verifyIssuedBy belowIssuer.suite authority.certificate =
      .error (.chainVerification "issued by 'CN=Second', not 'CN=First, CN=Second'") := by
  let root := rootAuthority acmeIssuer.suite acmeDraw repeatedRoot acmeKey
  have loaded : CertificateAuthority.load belowIssuer.suite "ca"
      (credentialDirectory (acmeRoot repeatedRoot)) = .ok root :=
    load_acmeRoot (by decide) (by decide +kernel)
  have verifies : belowIssuer.suite.Verifies root.key := SignatureSuite.verifies_trusting acmeKey
  have fits : (credentialBelow belowIssuer.suite root deviceDraw "acme" "NL" belowKey).InMemory :=
    inMemory_of_length_le (by decide +kernel) (length_sign_acme _)
  have issued := issueOrganization_external (i := belowIssuer) rfl loaded
    (show PrivateKey.generate belowIssuer.algorithm deviceDraw = .ok belowKey from rfl) "acme" "NL"
  obtain ⟨certificate, found, accepted⟩ := CertificateAuthority.load_eq_ok loaded
  obtain rfl : (acmeRoot repeatedRoot).certificatePem = certificate := by
    rw [credentialDirectory, List.lookup_cons_self] at found
    exact Option.some.inj found
  have plain := CertificateAuthority.isPlain_issuerName? accepted.named
  obtain ⟨c, read, checked⟩ :=
    ofPem_credentialBelow accepted plain verifies deviceDraw_inCalendar fits
  have signed_as : root.issuerName.text = "CN=Second" := by decide +kernel
  have named : root.certificate.subjectText = "CN=First, CN=Second" := by decide +kernel
  refine ⟨root, _, c, loaded, accepted.certificate_read, verifies, issued, read, ?_⟩
  rw [checked, signed_as, named]
  decide

end CertificateIssuer

end FleetIdentity
