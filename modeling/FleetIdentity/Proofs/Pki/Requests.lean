import FleetIdentity.Proofs.Pki.Certificates
import FleetIdentity.Proofs.Pki.KeyFiles

/-!
# What is issued

Issuing draws a key and asks for a certificate with the name of an organization or a device. A key
that is drawn can be read back, and so can what is asked for, as long as the moments of its validity
are in the calendar.
-/

namespace FleetIdentity

open Asn1

/-! ### Generated keys -/

theorem Ecdsa.isScalar_scalarOf {c : Weierstrass.Curve} (two_le : 2 ≤ c.order) (random : Nat) :
    isScalar c (scalarOf c random) = true := by
  have below : random % (c.order - 1) < c.order - 1 := Nat.mod_lt _ (by omega)
  rw [isScalar, scalarOf, Bool.and_eq_true, decide_eq_true_eq, decide_eq_true_eq]
  exact ⟨Nat.succ_pos _, by omega⟩

namespace PrivateKey

variable {algorithm : KeyAlgorithm} {draw : Draw} {key : PrivateKey}

/-- All that a generated key can be. -/
theorem generate_cases (generated : generate algorithm draw = .ok key) :
    (∃ secret, Ecdsa.isScalar Weierstrass.p256 secret = true ∧ key = .curve .p256 secret) ∨
      ∃ rsa, KeyFile.maySign rsa = true ∧ key = .rsa rsa := by
  cases algorithm with
  | ecdsaP256 =>
    have same : Except.ok (.curve .p256 (Ecdsa.scalarOf Weierstrass.p256 draw.numbers.1)) =
      Except.ok key := generated
    exact .inl ⟨_, Ecdsa.isScalar_scalarOf (by decide) draw.numbers.1, (Except.ok.inj same).symm⟩
  | rsa2048 =>
    have checked : ofGenerated (Rsa.generate? rsaBits draw.numbers.1 draw.numbers.2) = .ok key :=
      generated
    -- Which primes are found does not matter, only that the key was checked.
    generalize Rsa.generate? rsaBits draw.numbers.1 draw.numbers.2 = found at checked
    cases found with
    | none => cases checked
    | some rsa =>
      by_cases may : KeyFile.maySign rsa = true
      · exact .inr ⟨rsa, may, (Except.ok.inj ((if_pos may).symm.trans checked)).symm⟩
      · cases (if_neg may).symm.trans checked

/-- A key that is generated is one that can be read back. -/
theorem isUsable_of_generate (generated : generate algorithm draw = .ok key) : key.IsUsable := by
  rcases generate_cases generated with ⟨secret, scalar, rfl⟩ | ⟨rsa, may, rfl⟩
  · exact scalar
  · exact may

theorem length_encode (c : Weierstrass.Curve) (point : Weierstrass.Point) :
    (c.encode point).length = 2 * c.octets + 1 := by
  simp only [Weierstrass.Curve.encode, List.length_append, List.length_cons, Octets.length_ofNat]
  omega

/-- The public half of a key that may be generated is written in few octets. -/
theorem halfFits_of_generate (generated : generate algorithm draw = .ok key) :
    HalfFits (SignatureSuite.publicKeyOf key) := by
  rcases generate_cases generated with ⟨secret, -, rfl⟩ | ⟨rsa, may, rfl⟩
  · have length : (SignatureSuite.publicKeyOf (.curve .p256 secret)).length =
        2 * Weierstrass.p256.octets + 1 := length_encode _ _
    exact Nat.le_trans (Nat.le_of_eq length) (by decide)
  · have bits := bitLength_rsaNumbers may
    have few : ∀ n ∈ [rsa.modulus, rsa.publicExponent], Rsa.bitLength n ≤ 4096 := by
      intro n mem
      refine bits n (List.Sublist.mem mem ?_)
      exact .cons_cons _ (.cons_cons _ (List.nil_sublist _))
    have content : ([rsa.modulus, rsa.publicExponent].map writeInteger).flatten.length ≤ 1034 :=
      length_integers_le few
    have written := length_write_le Tag.sequence.octet (Nat.lt_of_le_of_lt content (by decide))
    exact Nat.le_trans written (by omega)

end PrivateKey

/-! ### Requests -/

/-- The present moment, and the end of the validity of what is issued now, are in the calendar. -/
structure Draw.InCalendar (draw : Draw) : Prop where
  now_in : CertificateTime.InCalendar draw.now
  expiry_in : CertificateTime.InCalendar (draw.now + CertificateRequest.validDays * 86400)

/-- The certificate is shorter than any text that fits in memory. -/
def IssuedCredential.InMemory (c : IssuedCredential) : Prop :=
  (Utf8.ofString c.certificatePem).length < 2 ^ 63

namespace CertificateRequest

variable {suite : SignatureSuite} {draw : Draw} {texts : List (Oid × String)}

theorem readable_ofKey (timely : draw.InCalendar) (attributes : List NameAttribute)
    (attributes_eq : attributes = texts.map fun t => NameAttribute.ofText t.1 t.2)
    (isAuthority : Bool) (key : PrivateKey) :
    (ofKey suite draw attributes isAuthority key).Readable key (suite.publicKey key) where
  notBefore_in := timely.now_in
  notAfter_in := timely.expiry_in
  subject_plain := attributes_eq ▸ DistinguishedName.isPlain_ofTexts texts
  publicKeyInfo_eq := rfl

end CertificateRequest

namespace CertificateIssuer

/-- The types and the texts of an organization's name. -/
def organizationTexts (name country : String) : List (Oid × String) :=
  [(Oid.commonName, name), (Oid.organization, name)] ++
    if country.isEmpty then [] else [(Oid.country, country)]

theorem organizationAttributes_eq (name country : String) :
    organizationAttributes name country =
      (organizationTexts name country).map fun t => NameAttribute.ofText t.1 t.2 := by
  rw [organizationAttributes, organizationTexts]
  cases country.isEmpty with
  | true => rfl
  | false => rfl

theorem regular_organizationTexts (name country : String) :
    CertificateAuthority.AreRegular ((organizationTexts name country).map (·.1)) := by
  have types : (organizationTexts name country).map (·.1) =
      [Oid.commonName, Oid.organization] ++ if country.isEmpty then [] else [Oid.country] := by
    rw [organizationTexts]
    cases country.isEmpty with
    | true => rfl
    | false => rfl
  rw [types]
  cases country.isEmpty with
  | true => constructor <;> decide
  | false => constructor <;> decide

theorem deviceAttributes_eq (organization id : String) : deviceAttributes organization id =
    [(Oid.commonName, id), (Oid.organization, organization)].map
      fun t => NameAttribute.ofText t.1 t.2 := rfl

end CertificateIssuer

end FleetIdentity
