import FleetIdentity.Proofs.Service.Outcomes

/-!
# Which device an enrollment enrolls

An enrollment that succeeds is of the device that the signed pair names, and leaves all others
alone, exactly if a device with that brand, model and serial number is registered. A database
guarantees it. The store in memory does not: it finds a device by the three texts joined with
slashes, and a slash inside one of them makes another device answer.
-/

namespace FleetIdentity.IdentityService

/-- The row is that of the device that an enrollment names, text by text. -/
def IsNamed (request : EnrollmentRequest) (r : DeviceRow) : Prop :=
  r.device.brand = request.brand ∧ r.device.model = request.model ∧
    r.device.serialNumber = request.serialNumber

/-- The enrolled device is the one that was named, and no other device changed. -/
structure EnrollsNamed (request : EnrollmentRequest) (s s' : Store) (e : Enrollment) : Prop where
  brand : e.device.brand = request.brand
  model : e.device.model = request.model
  serialNumber : e.device.serialNumber = request.serialNumber
  others : ∀ r, ¬ IsNamed request r → (r ∈ s'.rows ↔ r ∈ s.rows)

theorem keyOf_of_isNamed {kind : StoreKind} {request : EnrollmentRequest} {r : DeviceRow}
    (h : IsNamed request r) :
    kind.keyOf r = kind.lookupKey request.brand request.model request.serialNumber := by
  obtain ⟨brand, model, serialNumber⟩ := h
  rw [StoreKind.keyOf, brand, model, serialNumber]

theorem isNamed_of_keyOf {request : EnrollmentRequest} {r : DeviceRow}
    (h : StoreKind.database.keyOf r =
      StoreKind.database.lookupKey request.brand request.model request.serialNumber) :
    IsNamed request r := by
  unfold IsNamed
  simpa [StoreKind.keyOf, StoreKind.lookupKey] using h

variable {s s' : Store} {request : EnrollmentRequest} {e : Enrollment}

/-- If the row that was found is the named one, then so is the enrolled device, and every other row
stays as it is. -/
theorem enrollsNamed_of_isNamed (h : s.Sound) {r : DeviceRow} (mem : r ∈ s.rows)
    (named : IsNamed request r) {o : Organization}
    (e_eq : e = (r.enrolled request).toEnrollment o .enrolled)
    (rows_eq : s'.rows = DeviceRow.replaceIn s.rows (r.enrolled request)) :
    EnrollsNamed request s s' e := by
  subst e_eq
  refine ⟨named.1, named.2.1, named.2.2, ?_⟩
  intro x other
  rw [rows_eq]
  constructor
  · intro hx
    rcases DeviceRow.mem_replaceIn hx with rfl | ⟨hx, _⟩
    · exact absurd named other
    · exact hx
  · intro hx
    refine DeviceRow.mem_replaceIn_of_ne hx fun same => ?_
    obtain rfl := DeviceRow.eq_of_id h.ids hx mem same
    exact other named

/-- An enrollment that succeeds is of the named device, and of no other, exactly if the named device
is registered; in a database it always is. -/
theorem enrollDevice_named_iff (reached : s.Reachable) {first second : Assertion}
    (h : (enrollDevice first second).runOn s = (.ok e, s')) :
    ∃ model serial request,
      ((first = model ∧ second = serial) ∨ (first = serial ∧ second = model)) ∧
      model.typeName = "model" ∧ serial.typeName = "serial" ∧ Asks model serial request ∧
      (EnrollsNamed request s s' e ↔ ∃ r ∈ s.rows, IsNamed request r) ∧
      (s.kind = .database → EnrollsNamed request s s' e) := by
  obtain ⟨request, pair, enrolled⟩ := enrollDevice_ok h
  obtain ⟨model, serial, order, model_type, serial_type, asked⟩ :=
    EnrollmentRequest.ofPair_eq_ok_iff.1 pair
  have sound := reached.sound
  obtain ⟨r, mem, o, _, _, key, _, e_eq, becomes⟩ := Store.enrollDevice_ok enrolled
  refine ⟨model, serial, request, order, model_type, serial_type, asked, ?_, ?_⟩
  · constructor
    · intro exact
      have device_eq : e.device = (r.enrolled request).device := by
        rw [e_eq]
        rfl
      have brand := exact.brand
      have modelName := exact.model
      have serialNumber := exact.serialNumber
      rw [device_eq] at brand modelName serialNumber
      exact ⟨r, mem, brand, modelName, serialNumber⟩
    · rintro ⟨x, hx, named⟩
      -- Rows differ in their keys, so that no other row can have answered for the named one.
      have same : x = r :=
        List.inj_on_of_nodup_map sound.keys hx mem ((keyOf_of_isNamed named).trans key.symm)
      exact enrollsNamed_of_isNamed sound mem (same ▸ named) e_eq becomes.rows_eq
  · intro database
    rw [database] at key
    exact enrollsNamed_of_isNamed sound mem (isNamed_of_keyOf key) e_eq becomes.rows_eq

/-! ### A slash in a brand -/

/-- A model assertion for a brand and a model. -/
def modelOf (brand model : String) : Assertion where
  typeName := "model"
  headers := ((Dictionary.empty.insert brandHeader (.text brand)).insert modelHeader
    (.text model)).insert typeHeader (.text "model")
  typeName_eq := by rw [Dictionary.get?_insert, if_pos rfl]

/-- A serial assertion for a brand, a model and a serial number, with the key `k`. -/
def serialOf (brand model serialNumber : String) : Assertion where
  typeName := "serial"
  headers := ((((Dictionary.empty.insert brandHeader (.text brand)).insert modelHeader
    (.text model)).insert serialHeader (.text serialNumber)).insert deviceKeyHeader
      (.text "k")).insert typeHeader (.text "serial")
  typeName_eq := by rw [Dictionary.get?_insert, if_pos rfl]

/-- The device of brand `a/b` as it was registered. -/
def slashDevice : Device where
  brand := "a/b"
  model := "c"
  serialNumber := "s"
  storeId := ""
  deviceKey := ""

theorem reachable_slash : (Store.withDevice slashDevice .waiting).Reachable := by
  have organization : Store.Reachable (.memory ⟨[⟨"o", "acme", "", "", ""⟩], []⟩) := by
    refine .step .memory (@Store.Write.createOrganization _ _ "o" "o" ⟨"acme", "", "", ""⟩ ?_)
    decide +kernel
  refine .step organization (@Store.Write.createDevice _ _ "d" "d"
    ⟨"o", "a/b", "c", "s", ⟨"", "", "", ""⟩⟩ ?_)
  decide +kernel

/-- The device of brand `a/b` after an enrollment with the key `k`. -/
def slashEnrolled : Device :=
  { slashDevice with deviceKey := "k" }

/-- The answer to an enrollment of the device of brand `a/b`. -/
def slashAnswer : Enrollment where
  id := "d"
  device := slashEnrolled
  credentials := ⟨"", "", "", ""⟩
  organization := ⟨"o", "acme", "", "", ""⟩
  status := .enrolled
  deviceData := ""

/-- The device of brand `a/b` before its enrollment. -/
def slashWaiting : Enrollment :=
  { slashAnswer with device := slashDevice, status := .waiting }

theorem enrollDevice_named_slash :
    (enrollDevice (modelOf "a/b" "c") (serialOf "a/b" "c" "s")).runOn
        (Store.withDevice slashDevice .waiting) =
          (.ok slashAnswer, Store.withDevice slashEnrolled .enrolled) ∧
      ∃ request, EnrollsNamed request (Store.withDevice slashDevice .waiting)
        (Store.withDevice slashEnrolled .enrolled) slashAnswer := by
  have run : (enrollDevice (modelOf "a/b" "c") (serialOf "a/b" "c" "s")).runOn
      (Store.withDevice slashDevice .waiting) =
        (.ok slashAnswer, Store.withDevice slashEnrolled .enrolled) := by
    decide +kernel
  obtain ⟨model, serial, request, order, model_type, _, asked, iff, _⟩ :=
    enrollDevice_named_iff reachable_slash run
  refine ⟨run, request, iff.2 ⟨_, List.mem_singleton.2 rfl, ?_⟩⟩
  rcases order with ⟨rfl, rfl⟩ | ⟨_, rfl⟩
  · have computed : EnrollmentRequest.ofAssertions (modelOf "a/b" "c") (serialOf "a/b" "c" "s") =
        .ok ⟨"a/b", "c", "s", "", "k"⟩ := by
      decide +kernel
    cases computed.symm.trans (EnrollmentRequest.ofAssertions_eq_ok_iff.2 asked)
    exact ⟨rfl, rfl, rfl⟩
  · exact absurd model_type (by decide)

/-- A pair for brand `a` and model `b/c` enrolls the device of brand `a/b` and model `c`. -/
theorem enrollDevice_slash_other : ¬ ∀ (s s' : Store) (first second : Assertion) (e : Enrollment),
    s.Reachable → (enrollDevice first second).runOn s = (.ok e, s') →
      ∃ request, EnrollmentRequest.ofPair first second = .ok request ∧
        EnrollsNamed request s s' e := by
  intro claim
  obtain ⟨request, pair, exact⟩ := claim (Store.withDevice slashDevice .waiting)
    (Store.withDevice slashEnrolled .enrolled) (modelOf "a" "b/c") (serialOf "a" "b/c" "s")
    slashAnswer reachable_slash (by decide +kernel)
  have asked : EnrollmentRequest.ofPair (modelOf "a" "b/c") (serialOf "a" "b/c" "s") =
      .ok ⟨"a", "b/c", "s", "", "k"⟩ := by
    decide +kernel
  rw [asked] at pair
  cases pair
  exact absurd exact.brand (by decide)

end FleetIdentity.IdentityService
