import FleetIdentity.Proofs.Assertion.Framing
import FleetIdentity.Proofs.Assertion.SignedStream
import FleetIdentity.Proofs.Service.RegisteredDevice

/-!
# A registered device can be enrolled

From the registration of a device to its enrollment: whatever was written to the store in between,
as long as the device still waits, a model and a serial assertion that a trusted signer makes for
it are decoded from one stream, in either order, and enroll it with the key and the store that were
signed. All texts are allowed that the registration and the signer accept.

Blank device keys are excluded, since an enrollment refuses them. That a signature made with a seed
verifies under the seed's public key is taken from the scheme.
-/

namespace FleetIdentity

/-! ### Assertions about one device -/

/-- The headers of a model assertion. -/
def modelHeaders (brand model : String) (store : Option String) : List (String × HeaderValue) :=
  (brandHeader, .text brand) :: (modelHeader, .text model) ::
    (store.map fun storeId => (storeHeader, .text storeId)).toList

/-- The headers of a serial assertion. -/
def serialHeaders (brand model serialNumber deviceKey : String) : List (String × HeaderValue) :=
  [(brandHeader, .text brand), (modelHeader, .text model), (serialHeader, .text serialNumber),
    (deviceKeyHeader, .text deviceKey)]

/-- The signer made the text for the call, and the decoder trusts the signer's key. -/
structure Decoder.TrustedText (d : Decoder) (c : SigningCall) (t : SignedText) : Prop where
  made : c.result d.scheme = .ok t
  authority_ne : c.authorityId ≠ ""
  trusted : d.trusted.get? (c.signer d.scheme).signKeyId =
    some { authorityId := c.authorityId, key := d.scheme.publicKey c.seed }
  correct : ∀ message,
    d.scheme.verify (d.scheme.publicKey c.seed) message (d.scheme.sign c.seed message) = true

namespace Decoder

variable {d : Decoder} {c c' : SigningCall} {t t' : SignedText}

/-- An assertion with exactly the headers of a call. -/
def Carries (d : Decoder) (c : SigningCall) (a : Assertion) : Prop :=
  ∀ name value, a.headers.get? name = some value ↔ (name, value) ∈ c.entries d.scheme

theorem TrustedText.verified (h : d.TrustedText c t) (type_ne : c.typeName ≠ "")
    (nodup : (c.headers.map (·.1)).Nodup) :
    ∃ a, d.verify t.block t.signature = .ok a ∧ d.Carries c a := by
  obtain ⟨verified, carries⟩ := verify_result h.made h.trusted h.correct
  obtain ⟨a, accepted⟩ := verified.2 ⟨type_ne, h.authority_ne, nodup⟩
  exact ⟨a, accepted, carries a accepted⟩

theorem decodePair_join (h : d.TrustedText c t) (h' : d.TrustedText c' t') {a a' : Assertion}
    (accepted : d.verify t.block t.signature = .ok a)
    (accepted' : d.verify t'.block t'.signature = .ok a') :
    d.decodePair (Utf8.encode (Lines.join [t.text, t'.text])) = .ok (a, a') := by
  have plain : ∀ u ∈ [t, t'], ∃ entries, u.Plain entries := by
    intro u hu
    rcases List.mem_cons.1 hu with rfl | hu
    · exact ⟨_, (SigningCall.result_eq_ok h.made).1⟩
    · obtain rfl := List.mem_singleton.1 hu
      exact ⟨_, (SigningCall.result_eq_ok h'.made).1⟩
  have decoded := (decodeText_join plain).2 (.cons accepted (.cons accepted' .nil))
  exact decodePair_eq_ok_iff.2 ((decode_join plain).trans decoded)

theorem Carries.typeName_eq {a : Assertion} (h : d.Carries c a) : a.typeName = c.typeName := by
  have typed : (typeHeader, .text c.typeName) ∈ c.entries d.scheme := by
    simp [SigningCall.entries]
  simpa [a.typeName_eq] using (h _ _).2 typed

/-- A header that was given is there. -/
theorem Carries.get?_of_mem {a : Assertion} (h : d.Carries c a) {name : String}
    {value : HeaderValue} (mem : (name, value) ∈ c.headers) : a.headers.get? name = some value := by
  refine (h name value).2 ?_
  unfold SigningCall.entries
  simp [mem]

/-- A header that was not given and that the signer does not add is absent. -/
theorem Carries.get?_eq_none {a : Assertion} (h : d.Carries c a) {name : String}
    (free : name ∉ Signer.reserved) (absent : ∀ value, (name, value) ∉ c.headers) :
    a.headers.get? name = none := by
  cases there : a.headers.get? name with
  | none => rfl
  | some value =>
    have mem := (h name value).1 there
    unfold SigningCall.entries at mem
    simp only [List.mem_cons, Prod.mk.injEq] at mem
    rcases mem with ⟨rfl, _⟩ | ⟨rfl, _⟩ | ⟨rfl, _⟩ | mem
    · exact absurd (by decide) free
    · exact absurd (by decide) free
    · exact absurd (by decide) free
    · exact absurd mem (absent value)

end Decoder

theorem nodup_modelHeaders (brand model : String) (store : Option String) :
    ((modelHeaders brand model store).map (·.1)).Nodup := by
  cases store with
  | none =>
    show [brandHeader, modelHeader].Nodup
    decide
  | some storeId =>
    show [brandHeader, modelHeader, storeHeader].Nodup
    decide

theorem nodup_serialHeaders (brand model serialNumber deviceKey : String) :
    ((serialHeaders brand model serialNumber deviceKey).map (·.1)).Nodup := by
  show [brandHeader, modelHeader, serialHeader, deviceKeyHeader].Nodup
  decide

/-- What the two assertions ask for together. -/
theorem asks_of_carries {d : Decoder} {c c' : SigningCall} {a a' : Assertion}
    {request : EnrollmentRequest} {store : Option String} (h : d.Carries c a) (h' : d.Carries c' a')
    (model_headers : c.headers.Perm (modelHeaders request.brand request.model store))
    (serial_headers : c'.headers.Perm (serialHeaders request.brand request.model
      request.serialNumber request.deviceKey))
    (store_eq : request.storeId = store.getD "")
    (present : isBlank request.brand = false ∧ isBlank request.model = false ∧
      isBlank request.serialNumber = false ∧ isBlank request.deviceKey = false) :
    Asks a a' request := by
  have given {name : String} {value : HeaderValue}
      (mem : (name, value) ∈ modelHeaders request.brand request.model store) :
      a.headers.get? name = some value := h.get?_of_mem (model_headers.mem_iff.2 mem)
  have given' {name : String} {value : HeaderValue}
      (mem : (name, value) ∈ serialHeaders request.brand request.model request.serialNumber
        request.deviceKey) :
      a'.headers.get? name = some value := h'.get?_of_mem (serial_headers.mem_iff.2 mem)
  refine ⟨⟨given ?_, given' ?_⟩, ⟨given ?_, given' ?_⟩, given' ?_, given' ?_, ?_, present⟩
  · simp [modelHeaders]
  · simp [serialHeaders]
  · simp [modelHeaders]
  · simp [serialHeaders]
  · simp [serialHeaders]
  · simp [serialHeaders]
  · cases store with
    | none =>
      left
      refine ⟨h.get?_eq_none (by decide) fun value mem => ?_, store_eq⟩
      have listed := model_headers.mem_iff.1 mem
      simp [modelHeaders, storeHeader, brandHeader, modelHeader] at listed
    | some storeId =>
      right
      rw [store_eq]
      exact given (by simp [modelHeaders])

namespace IdentityService

open StoreCall

variable {service : IdentityService} {fresh : Fresh} {request : DeviceRequest} {s₀ s₁ s : Store}
  {id : String} {current : Enrollment}

/-! ### A device after its registration -/

/-- A device is found under its id as it was registered, whatever was written since. -/
theorem registered_device (sound : s₀.Sound)
    (registered : (service.registerDevice fresh request).runOn s₀ = (.ok id, s₁))
    (later : Relation.ReflTransGen Store.Write s₁ s) (found : s.getDeviceById id = .ok current) :
    s.Sound ∧ current.device.brand = request.brand ∧ current.device.model = request.model ∧
      current.device.serialNumber = request.serialNumber := by
  obtain ⟨new, brand, model, serialNumber, made⟩ := registerDevice_ok registered
  obtain ⟨rfl, _, _, _, becomes⟩ := Store.createDevice_ok made
  obtain ⟨sound, kept⟩ := (sound.write (.createDevice made)).after_writes later
  refine ⟨sound, ?_⟩
  obtain ⟨mem, id_eq⟩ := (Store.getDeviceById_eq_ok_iff sound).1 found
  obtain ⟨r, r_mem, shown⟩ := Store.mem_enrollments.1 mem
  obtain ⟨r_id, device, _⟩ := Store.eq_of_enrollment? shown
  have stored : new.row fresh.id ∈ s₁.rows := by
    rw [becomes.rows_eq]
    exact List.mem_append_right _ List.mem_cons_self
  obtain ⟨x, x_mem, same⟩ := List.mem_map.1 (kept.subset (List.mem_map_of_mem stored))
  have x_id : x.id = fresh.id := congrArg Prod.fst same
  obtain rfl := DeviceRow.eq_of_id sound.ids x_mem r_mem (x_id.trans (id_eq.symm.trans r_id))
  simp only [DeviceRow.identity, Prod.mk.injEq] at same
  rw [device, same.2.1, same.2.2.1, same.2.2.2]
  exact ⟨brand, model, serialNumber⟩

theorem complete_of_registered
    (registered : (service.registerDevice fresh request).runOn s₀ = (.ok id, s₁)) :
    isBlank request.brand = false ∧ isBlank request.model = false ∧
      isBlank request.serialNumber = false := by
  obtain ⟨_, _, checked, _⟩ := runOn_bind_eq_ok_iff.1 registered
  simp only [runOn_ofExcept_eq_ok_iff, checkDeviceRequest, bind_eq_ok_iff] at checked
  obtain ⟨⟨_, _, _, brand, _, model, serialNumber⟩, _⟩ := checked
  exact ⟨requireField_eq_ok_iff.1 brand, requireField_eq_ok_iff.1 model,
    requireField_eq_ok_iff.1 serialNumber⟩

theorem enrollDevice_run (h : s.Sound) {a b : Assertion} {asked : EnrollmentRequest}
    (pair : EnrollmentRequest.ofPair a b = .ok asked)
    (found : s.getDevice asked.brand asked.model asked.serialNumber = .ok current)
    (waiting : current.status = .waiting) :
    ∃ e s', (enrollDevice a b).runOn s = (.ok e, s') ∧ e.id = current.id ∧
      e.status = .enrolled ∧ e.device = { current.device with
        storeId := asked.storeId, deviceKey := asked.deviceKey } ∧
      s'.getDeviceById current.id = .ok e := by
  obtain ⟨e, s', made, id_eq, status, device, read⟩ := Store.enrollDevice_of_waiting h found waiting
  refine ⟨e, s', ?_, id_eq, status, device, read⟩
  have enrollee_run : (enrollee asked).runOn s = (.ok current, s) := by
    rw [runOn, enrollee, found]
  rw [enrollDevice, runOn_bind_of_ok (runOn_ofExcept_eq_ok_iff.2 ⟨pair, rfl⟩),
    runOn_bind_of_ok enrollee_run, if_neg fun ne => ne waiting]
  exact runOn_write_eq_ok_iff.2 made

/-! ### The enrollment -/

/-- The two texts, joined by a newline, are decoded as a pair that enrolls the device with an id,
which then reads back as it was answered. -/
def StreamEnrolls (d : Decoder) (s : Store) (id : String) (device : Device)
    (first second : SignedText) : Prop :=
  ∃ a b e s', d.decodePair (Utf8.encode (Lines.join [first.text, second.text])) = .ok (a, b) ∧
    (enrollDevice a b).runOn s = (.ok e, s') ∧ e.id = id ∧ e.status = .enrolled ∧
    e.device = device ∧ s'.getDeviceById id = .ok e

/-- A device that waits since its registration is enrolled by the stream of a model and a serial
assertion about it that the decoder trusts, in either order. -/
theorem stream_enrolls_registered {d : Decoder} (reached : s₀.Reachable)
    (registered : (service.registerDevice fresh request).runOn s₀ = (.ok id, s₁))
    (later : Relation.ReflTransGen Store.Write s₁ s)
    (found : s.getDeviceById id = .ok current) (waiting : current.status = .waiting)
    {deviceKey : String} (key_present : isBlank deviceKey = false) (store : Option String)
    {modelCall serialCall : SigningCall} {modelText serialText : SignedText}
    (model_type : modelCall.typeName = "model")
    (model_headers : modelCall.headers.Perm (modelHeaders request.brand request.model store))
    (model_signed : d.TrustedText modelCall modelText)
    (serial_type : serialCall.typeName = "serial")
    (serial_headers : serialCall.headers.Perm (serialHeaders request.brand request.model
      request.serialNumber deviceKey))
    (serial_signed : d.TrustedText serialCall serialText) :
    StreamEnrolls d s id ⟨request.brand, request.model, request.serialNumber, store.getD "",
        deviceKey⟩ modelText serialText ∧
      StreamEnrolls d s id ⟨request.brand, request.model, request.serialNumber, store.getD "",
        deviceKey⟩ serialText modelText := by
  obtain ⟨sound, brand, model, serialNumber⟩ :=
    registered_device reached.sound registered later found
  obtain ⟨brand_present, model_present, serial_present⟩ := complete_of_registered registered
  have model_nodup : (modelCall.headers.map (·.1)).Nodup :=
    (model_headers.map _).nodup_iff.2 (nodup_modelHeaders _ _ _)
  have serial_nodup : (serialCall.headers.map (·.1)).Nodup :=
    (serial_headers.map _).nodup_iff.2 (nodup_serialHeaders _ _ _ _)
  obtain ⟨a, accepted, carries⟩ := model_signed.verified (by rw [model_type]; decide) model_nodup
  obtain ⟨b, accepted', carries'⟩ :=
    serial_signed.verified (by rw [serial_type]; decide) serial_nodup
  have asked : Asks a b ⟨request.brand, request.model, request.serialNumber, store.getD "",
      deviceKey⟩ :=
    asks_of_carries carries carries' model_headers serial_headers rfl
      ⟨brand_present, model_present, serial_present, key_present⟩
  have a_type : a.typeName = "model" := carries.typeName_eq.trans model_type
  have b_type : b.typeName = "serial" := carries'.typeName_eq.trans serial_type
  obtain ⟨mem, rfl⟩ := (Store.getDeviceById_eq_ok_iff sound).1 found
  have lookup : s.getDevice request.brand request.model request.serialNumber = .ok current := by
    refine (Store.getDevice_eq_ok_iff sound).2 ⟨mem, ?_⟩
    rw [brand, model, serialNumber]
  have device_eq : (⟨current.device.brand, current.device.model, current.device.serialNumber,
      store.getD "", deviceKey⟩ : Device) =
      ⟨request.brand, request.model, request.serialNumber, store.getD "", deviceKey⟩ := by
    rw [brand, model, serialNumber]
  constructor
  · have pair := EnrollmentRequest.ofPair_eq_ok_iff.2
      ⟨a, b, .inl ⟨rfl, rfl⟩, a_type, b_type, asked⟩
    obtain ⟨e, s', run, id_eq, status, device, read⟩ := enrollDevice_run sound pair lookup waiting
    exact ⟨a, b, e, s', Decoder.decodePair_join model_signed serial_signed accepted accepted',
      run, id_eq, status, device.trans device_eq, read⟩
  · have pair := EnrollmentRequest.ofPair_eq_ok_iff.2
      ⟨a, b, .inr ⟨rfl, rfl⟩, a_type, b_type, asked⟩
    obtain ⟨e, s', run, id_eq, status, device, read⟩ := enrollDevice_run sound pair lookup waiting
    exact ⟨b, a, e, s', Decoder.decodePair_join serial_signed model_signed accepted' accepted,
      run, id_eq, status, device.trans device_eq, read⟩

/-! ### One device from its registration on -/

/-- A store with the organization `acme` and the device that was registered under the id `e`. -/
def withNote (deviceData : String) : Store :=
  .memory {
    organizations := [⟨"o", "acme", "", "", ""⟩]
    devices := [⟨"e", "o", ⟨"b", "m", "s/1", "", ""⟩,
      ⟨"key", "certificate", "localhost", "8883"⟩, .waiting, deviceData⟩] }

/-- The model assertion about the device, for the store `shop`. -/
def shopModelCall : SigningCall where
  authorityId := "acme"
  seed := List.replicate 32 1
  typeName := "model"
  headers := modelHeaders "b" "m" (some "shop")

/-- The serial assertion about the device, by the same signer. -/
def shopSerialCall : SigningCall where
  authorityId := "acme"
  seed := List.replicate 32 1
  typeName := "serial"
  headers := serialHeaders "b" "m" "s/1" "k"

/-- The block of the model assertion. -/
def shopModelBlock : List Char :=
  Lines.join <| List.map String.toList ["type: model", "authority-id: acme",
    "sign-key-id: 83561adb398fd87f8e7ed8331bff2fcb945733cc3012879cb9fab07928667062",
    "brand-id: b", "model: m", "store: shop"]

/-- The block of the serial assertion. -/
def shopSerialBlock : List Char :=
  Lines.join <| List.map String.toList ["type: serial", "authority-id: acme",
    "sign-key-id: 83561adb398fd87f8e7ed8331bff2fcb945733cc3012879cb9fab07928667062",
    "brand-id: b", "model: m", "serial: s/1", "device-key: k"]

/-- The Ed25519 signatures of the two blocks. -/
def shopSignature (message : Octets) : Octets :=
  Octets.ofNat 64 <|
    if message = Utf8.encode shopModelBlock then
      0x7e91b93cfee0188eaad84e9fb4ee30542b6dce04f6f5e320b9c9c6b45319f3a0 * 2 ^ 256 +
        0xde99a525b8d0eafe4bb6e8c8ae849c3c946d35801f47369abb24dfac9b4ba90b
    else if message = Utf8.encode shopSerialBlock then
      0x984fb66ccef4b565de61a04bc3b55130d949b63969fc64666f5b1e89b5589e41 * 2 ^ 256 +
        0x86fd23ec8e3167f2c7ed6a2b9daf05e742846e068d704f8845f951231385d208
    else 0

/-- What Ed25519 and BLAKE3 give for the seed, its key and the two blocks. -/
def shopScheme : SignatureScheme :=
  { Decoder.tabledScheme with
    sign := fun _ message => shopSignature message
    verify := fun _ message signature => signature = shopSignature message
    length_sign := fun _ _ => Octets.length_ofNat _ _ }

/-- The decoder that trusts the signer. -/
def shopDecoder : Decoder :=
  (Decoder.empty shopScheme).trust "acme" (shopScheme.publicKey shopModelCall.seed)

theorem trustedText_shop {c : SigningCall} {block : List Char}
    (block_eq : (c.signer shopScheme).block c.typeName c.headers = .ok block)
    (authority : c.authorityId = "acme") (seed : c.seed = shopModelCall.seed) :
    shopDecoder.TrustedText c ⟨block, Base64.encode (shopSignature (Utf8.encode block))⟩ where
  made := by
    show c.result shopScheme = _
    rw [SigningCall.result, Signer.sign, block_eq]
    rfl
  authority_ne := by
    rw [authority]
    decide
  trusted := by
    have key : (c.signer shopScheme).signKeyId = (shopModelCall.signer shopScheme).signKeyId := by
      rw [Signer.signKeyId, Signer.publicKey, SigningCall.signer, seed]
      rfl
    show shopDecoder.trusted.get? (c.signer shopScheme).signKeyId =
      some ⟨c.authorityId, shopScheme.publicKey c.seed⟩
    rw [key, authority, seed]
    decide +kernel
  correct _ := decide_eq_true rfl

theorem stream_enrolls_shop :
    StreamEnrolls shopDecoder (withNote "later") "e" ⟨"b", "m", "s/1", "shop", "k"⟩
        ⟨shopModelBlock, Base64.encode (shopSignature (Utf8.encode shopModelBlock))⟩
        ⟨shopSerialBlock, Base64.encode (shopSignature (Utf8.encode shopSerialBlock))⟩ ∧
      StreamEnrolls shopDecoder (withNote "later") "e" ⟨"b", "m", "s/1", "shop", "k"⟩
        ⟨shopSerialBlock, Base64.encode (shopSignature (Utf8.encode shopSerialBlock))⟩
        ⟨shopModelBlock, Base64.encode (shopSignature (Utf8.encode shopModelBlock))⟩ := by
  have reached : Store.Reachable (.memory ⟨[⟨"o", "acme", "", "", ""⟩], []⟩) := by
    refine .step .memory (@Store.Write.createOrganization _ _ "o" "o" ⟨"acme", "", "", ""⟩ ?_)
    decide +kernel
  have registered : (fixedService.registerDevice freshE ⟨"o", "b", "m", "s/1"⟩).runOn
      (.memory ⟨[⟨"o", "acme", "", "", ""⟩], []⟩) = (.ok "e", withNote "") := by
    decide +kernel
  have noted : Store.Write (withNote "") (withNote "later") := by
    refine @Store.Write.updateDeviceData _ _ "e" "later" ?_
    decide +kernel
  have found : (withNote "later").getDeviceById "e" = .ok ⟨"e", ⟨"b", "m", "s/1", "", ""⟩,
      ⟨"key", "certificate", "localhost", "8883"⟩, ⟨"o", "acme", "", "", ""⟩, .waiting,
      "later"⟩ := by
    decide +kernel
  have key_present : isBlank "k" = false := by
    decide +kernel
  have model_signed : shopDecoder.TrustedText shopModelCall
      ⟨shopModelBlock, Base64.encode (shopSignature (Utf8.encode shopModelBlock))⟩ :=
    trustedText_shop (by decide +kernel) rfl rfl
  have serial_signed : shopDecoder.TrustedText shopSerialCall
      ⟨shopSerialBlock, Base64.encode (shopSignature (Utf8.encode shopSerialBlock))⟩ :=
    trustedText_shop (by decide +kernel) rfl rfl
  exact stream_enrolls_registered reached registered (.single noted) found rfl key_present
    (some "shop") rfl (.refl _) model_signed rfl (.refl _) serial_signed

end IdentityService

end FleetIdentity
