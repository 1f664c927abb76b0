import FleetIdentity.Proofs.Store.Tables
import FleetIdentity.Proofs.Store.Writes

/-!
# The reads of an attained store agree with each other

Calls on an empty store never store two organizations of one name or of one id, provided the
generated ids are fresh. With what holds of every sound store this makes the reads consistent: the
list of an organization's devices, the look-up of a device by id and the one by brand, model and
serial number show the same enrollments, and so do the three reads of organizations. No call finds
the store broken.
-/

namespace FleetIdentity

namespace Store

variable {s : Store} {e : Enrollment}

/-! ### The organizations -/

theorem getOrganization_eq_ok_iff (tables : s.HasTables) (h : s.Unmixed) {id : String}
    {o : Organization} : s.getOrganization id = .ok o ↔ o ∈ s.organizations ∧ o.id = id := by
  rw [getOrganization_eq tables, foundOr_eq_ok_iff]
  constructor
  · exact mem_of_find?_beq
  · rintro ⟨mem, rfl⟩
    exact find?_beq_of_mem h.ids mem

theorem getOrganizationByName_eq_ok_iff (tables : s.HasTables) (h : s.Unmixed) {name : String}
    {o : Organization} :
    s.getOrganizationByName name = .ok o ↔ o ∈ s.organizations ∧ o.name = name := by
  rw [getOrganizationByName_eq tables, foundOr_eq_ok_iff]
  constructor
  · exact mem_of_find?_beq
  · rintro ⟨mem, rfl⟩
    exact find?_beq_of_mem h.names mem

end Store

/-! ### No call finds the store broken -/

/-- The outcome is not a failure of the store. -/
def StorageFree {α : Type} (outcome : Except IdentityError α) : Prop :=
  ∀ text, outcome ≠ .error (.storage text)

theorem storageFree_ok {α : Type} (a : α) : StorageFree (.ok a) := by
  intro text h
  cases h

theorem StorageFree.bind {α β : Type} {x : Except IdentityError α}
    {f : α → Except IdentityError β} (first : StorageFree x) (later : ∀ a, StorageFree (f a)) :
    StorageFree (x >>= f) := by
  intro text h
  rcases bind_eq_error_iff.1 h with h | ⟨a, _, h⟩
  · exact first text h
  · exact later a text h

theorem StorageFree.map {α β : Type} {x : Except IdentityError α} (h : StorageFree x) (f : α → β) :
    StorageFree (x.map f) := by
  cases x with
  | ok a => exact storageFree_ok (f a)
  | error e =>
    intro text same
    cases same
    exact h text rfl

theorem storageFree_requireField (field value : String) :
    StorageFree (requireField field value) := by
  intro text h
  unfold requireField at h
  split at h
  · cases h
  · cases h

theorem storageFree_check (new : NewDevice) : StorageFree new.check :=
  (storageFree_requireField _ _).bind fun _ => (storageFree_requireField _ _).bind fun _ =>
    (storageFree_requireField _ _).bind fun _ => storageFree_requireField _ _

theorem storageFree_foundOr {α : Type} {failure : IdentityError} {found : Option α}
    (other : ∀ text, failure ≠ .storage text) : StorageFree (foundOr failure found) := by
  intro text h
  exact other text (foundOr_eq_error h).symm

theorem storageFree_error {α : Type} {failure : IdentityError}
    (other : ∀ text, failure ≠ .storage text) :
    StorageFree (.error failure : Except IdentityError α) := by
  intro text same
  cases same
  exact other text rfl

theorem StorageFree.ite {α : Type} {c : Prop} [Decidable c] {x y : Except IdentityError α}
    (hx : StorageFree x) (hy : StorageFree y) : StorageFree (if c then x else y) := by
  split
  · exact hx
  · exact hy

theorem enrollmentRefusal_ne_storage (status : Status) (key text : String) :
    enrollmentRefusal status key ≠ .storage text := by
  cases status <;> nofun

namespace Store

variable {s : Store} {e : Enrollment}

theorem Sound.storageFree_getDeviceById (h : s.Sound) (id : String) :
    StorageFree (s.getDeviceById id) := by
  rw [getDeviceById_eq h]
  exact storageFree_foundOr fun text same => by cases same

theorem Sound.storageFree_getDevice (h : s.Sound) (brand model serialNumber : String) :
    StorageFree (s.getDevice brand model serialNumber) := by
  rw [getDevice_eq h]
  exact storageFree_foundOr fun text same => by cases same

theorem Sound.storageFree_perform (h : s.Sound) {call : Call}
    (fresh : call.FreshFor s.organizations) : StorageFree (s.perform call).1 := by
  cases call with
  | createOrganization id new =>
    rw [Store.perform, settle_fst, createOrganization_answer h.hasTables fresh]
    refine StorageFree.map ((storageFree_requireField _ _).bind fun _ => ?_) _
    exact StorageFree.ite (storageFree_error fun text same => by cases same) (storageFree_ok id)
  | getOrganization id =>
    rw [Store.perform, getOrganization_eq h.hasTables]
    exact (storageFree_foundOr fun text same => by cases same).map _
  | getOrganizationByName name =>
    rw [Store.perform, getOrganizationByName_eq h.hasTables]
    exact (storageFree_foundOr fun text same => by cases same).map _
  | listOrganizations =>
    rw [Store.perform, listOrganizations_eq h.hasTables]
    exact (storageFree_ok _).map _
  | createDevice id new =>
    rw [Store.perform, settle_fst, createDevice_answer h.hasTables]
    refine StorageFree.map ((storageFree_check new).bind fun _ => ?_) _
    refine StorageFree.ite (storageFree_error fun text same => by cases same) ?_
    refine StorageFree.ite (storageFree_error fun text same => by cases same) ?_
    exact StorageFree.ite (storageFree_error fun text same => by cases same) (storageFree_ok id)
  | getDevice brand model serialNumber => exact (h.storageFree_getDevice _ _ _).map _
  | getDeviceById id => exact (h.storageFree_getDeviceById id).map _
  | enrollDevice request =>
    rw [Store.perform, settle_fst, enrollDevice_answer h]
    refine StorageFree.map ((h.storageFree_getDevice _ _ _).bind fun current => ?_) _
    exact StorageFree.ite (storageFree_error (enrollmentRefusal_ne_storage _ _)) (storageFree_ok _)
  | updateDeviceStatus id update =>
    obtain ⟨text, answer⟩ := updateDeviceStatus_answer h id update
    rw [Store.perform, settle_fst, answer]
    refine StorageFree.map ((h.storageFree_getDeviceById id).bind fun current => ?_) _
    exact StorageFree.ite (storageFree_error fun text same => by cases same) (storageFree_ok ())
  | updateDeviceData id deviceData =>
    rw [Store.perform, settle_fst, updateDeviceData_answer h]
    exact ((h.storageFree_getDeviceById id).map _).map _
  | listDevices organizationId =>
    obtain ⟨listed, read, _⟩ := listDevices_perm h organizationId
    rw [Store.perform, read]
    exact (storageFree_ok listed).map _

/-! ### What the rows show -/

theorem Sound.triples (h : s.Sound) : (s.rows.map fun r =>
    (r.device.brand, r.device.model, r.device.serialNumber)).Nodup := by
  -- Either key is a function of the triple, so that rows with equal triples have equal keys.
  have keys : s.rows.map s.kind.keyOf = (s.rows.map fun r =>
      (r.device.brand, r.device.model, r.device.serialNumber)).map
        fun triple => s.kind.lookupKey triple.1 triple.2.1 triple.2.2 := by
    rw [List.map_map]
    rfl
  exact List.Nodup.of_map _ (keys ▸ h.keys)

theorem Sound.shown (h : s.Sound) {r : DeviceRow} (mem : r ∈ s.rows) :
    ∃ o ∈ s.organizations, ∃ status, o.id = r.organizationId ∧
      r.statusCode = Status.code status ∧
        s.getDeviceById r.id = .ok (r.toEnrollment o status) := by
  obtain ⟨e, shown⟩ := h.enrollment? mem
  obtain ⟨o, status, owner, code, rfl⟩ := enrollment?_eq_some_iff.1 shown
  obtain ⟨o_mem, owned⟩ := mem_of_find?_beq owner
  refine ⟨o, o_mem, status, owned, code, ?_⟩
  exact (getDeviceById_eq_ok_iff h).2 ⟨mem_enrollments.2 ⟨r, mem, shown⟩, rfl⟩

theorem Sound.mem_listDevices (h : s.Sound) (organizationId : String) :
    ∃ listed, s.listDevices organizationId = .ok listed ∧
      ∀ e, e ∈ listed ↔ s.getDeviceById e.id = .ok e ∧ e.organization.id = organizationId := by
  obtain ⟨listed, read, perm⟩ := listDevices_perm h organizationId
  refine ⟨listed, read, fun e => ?_⟩
  rw [perm.mem_iff, List.mem_filter, beq_iff_eq, getDeviceById_eq_ok_iff h]
  exact and_congr_left fun _ => (and_iff_left rfl).symm

theorem Sound.getDevice_of_getDeviceById (h : s.Sound) (read : s.getDeviceById e.id = .ok e) :
    s.getDevice e.device.brand e.device.model e.device.serialNumber = .ok e := by
  obtain ⟨mem, _⟩ := (getDeviceById_eq_ok_iff h).1 read
  exact (getDevice_eq_ok_iff h).2 ⟨mem, rfl⟩

theorem Sound.owner_of_getDeviceById (h : s.Sound) (read : s.getDeviceById e.id = .ok e) :
    e.organization ∈ s.organizations := by
  obtain ⟨mem, _⟩ := (getDeviceById_eq_ok_iff h).1 read
  obtain ⟨r, _, shown⟩ := mem_enrollments.1 mem
  exact (eq_of_enrollment? shown).2.2.1

end Store

/-! ### The reads together -/

/-- What is stored is distinct and owned, and all the reads show the same of it. -/
structure Consistent (ask : Call → Except IdentityError Answer) (owners : List Organization)
    (rows : List DeviceRow) : Prop where
  organizationNames : (owners.map (·.name)).Nodup
  organizationIds : (owners.map (·.id)).Nodup
  deviceIds : (rows.map (·.id)).Nodup
  triples : (rows.map fun r => (r.device.brand, r.device.model, r.device.serialNumber)).Nodup
  owned : ∀ r ∈ rows, ∃ o ∈ owners, o.id = r.organizationId
  /-- Each stored device is shown, with its owner. -/
  shown : ∀ r ∈ rows, ∃ o ∈ owners, ∃ status, o.id = r.organizationId ∧
    r.statusCode = Status.code status ∧
      ask (.getDeviceById r.id) = .ok (.enrollment (r.toEnrollment o status))
  devices : ∀ organizationId, ∃ listed,
    ask (.listDevices organizationId) = .ok (.enrollments listed) ∧
      ∀ e, e ∈ listed ↔
        ask (.getDeviceById e.id) = .ok (.enrollment e) ∧ e.organization.id = organizationId
  device : ∀ e, ask (.getDeviceById e.id) = .ok (.enrollment e) →
    ask (.getDevice e.device.brand e.device.model e.device.serialNumber) = .ok (.enrollment e) ∧
      ask (.getOrganization e.organization.id) = .ok (.organization e.organization)
  organizations : ∃ listed, ask .listOrganizations = .ok (.organizations listed) ∧ ∀ g,
    (g ∈ listed ↔ ask (.getOrganization g.id) = .ok (.organization g)) ∧
      (ask (.getOrganization g.id) = .ok (.organization g) ↔
        ask (.getOrganizationByName g.name) = .ok (.organization g))
  unbroken : ∀ call : Call, call.FreshFor owners →
    ∀ text, ask call ≠ .error (.storage text)

/-- Two ways to answer the same calls of the same content, in any order, are consistent together. -/
theorem Consistent.congr {ask ask' : Call → Except IdentityError Answer}
    {organizations organizations' : List Organization} {rows rows' : List DeviceRow}
    (h : Consistent ask organizations rows) (owners : organizations'.Perm organizations)
    (devices : rows'.Perm rows)
    (same : ∀ call : Call, call.FreshFor organizations → ask' call = ask call) :
    Consistent ask' organizations' rows' := by
  have byId (id : String) : ask' (.getDeviceById id) = ask (.getDeviceById id) := same _ trivial
  have byKey (brand model serialNumber : String) :
      ask' (.getDevice brand model serialNumber) = ask (.getDevice brand model serialNumber) :=
    same _ trivial
  have owner (id : String) : ask' (.getOrganization id) = ask (.getOrganization id) :=
    same _ trivial
  have named (name : String) :
      ask' (.getOrganizationByName name) = ask (.getOrganizationByName name) := same _ trivial
  constructor
  case organizationNames => exact (owners.map _).nodup_iff.2 h.organizationNames
  case organizationIds => exact (owners.map _).nodup_iff.2 h.organizationIds
  case deviceIds => exact (devices.map _).nodup_iff.2 h.deviceIds
  case triples => exact (devices.map _).nodup_iff.2 h.triples
  case owned =>
    intro r mem
    obtain ⟨o, o_mem, owned⟩ := h.owned r (devices.mem_iff.1 mem)
    exact ⟨o, owners.mem_iff.2 o_mem, owned⟩
  case shown =>
    intro r mem
    obtain ⟨o, o_mem, shown⟩ := h.shown r (devices.mem_iff.1 mem)
    rw [byId]
    exact ⟨o, owners.mem_iff.2 o_mem, shown⟩
  case devices =>
    intro organizationId
    simp only [same (.listDevices organizationId) trivial, byId]
    exact h.devices organizationId
  case device =>
    intro e
    rw [byId, byKey, owner]
    exact h.device e
  case organizations =>
    simp only [same .listOrganizations trivial, owner, named]
    exact h.organizations
  case unbroken =>
    intro call fresh
    have fresh' : call.FreshFor organizations := by
      cases call with
      | createOrganization id new => exact fun o mem => fresh o (owners.mem_iff.2 mem)
      | _ => trivial
    rw [same call fresh']
    exact h.unbroken call fresh'

theorem map_eq_ok_iff {α : Type} {toAnswer : α → Answer} (inj : Function.Injective toAnswer)
    {outcome : Except IdentityError α} {a : α} :
    outcome.map toAnswer = .ok (toAnswer a) ↔ outcome = .ok a := by
  cases outcome with
  | error e => exact ⟨nofun, nofun⟩
  | ok b => exact ⟨fun same => congrArg _ (inj (Except.ok.inj same)),
      fun same => congrArg _ (congrArg toAnswer (Except.ok.inj same))⟩

theorem Store.Attained.consistent {s : Store} (attained : s.Attained) :
    Consistent (fun call => (s.perform call).1) s.organizations s.rows := by
  have sound := attained.sound
  have unmixed := attained.unmixed
  have tables := sound.hasTables
  have enrollment {outcome : Except IdentityError Enrollment} {e : Enrollment} :
      outcome.map Answer.enrollment = .ok (.enrollment e) ↔ outcome = .ok e :=
    map_eq_ok_iff fun _ _ => Answer.enrollment.inj
  have organization {outcome : Except IdentityError Organization} {o : Organization} :
      outcome.map Answer.organization = .ok (.organization o) ↔ outcome = .ok o :=
    map_eq_ok_iff fun _ _ => Answer.organization.inj
  refine ⟨unmixed.names, unmixed.ids, sound.ids, sound.triples, sound.owned, ?shown, ?devices,
    ?device, ?organizations, fun call fresh => sound.storageFree_perform fresh⟩
  case shown =>
    intro r mem
    obtain ⟨o, o_mem, status, owned, code, read⟩ := sound.shown mem
    exact ⟨o, o_mem, status, owned, code, enrollment.2 read⟩
  case devices =>
    intro organizationId
    obtain ⟨listed, read, mem_iff⟩ := sound.mem_listDevices organizationId
    refine ⟨listed, ?_, fun e => ?_⟩
    · rw [Store.perform, read]
      rfl
    · rw [mem_iff, Store.perform, enrollment]
  case device =>
    intro e read
    have read := enrollment.1 read
    refine ⟨enrollment.2 (sound.getDevice_of_getDeviceById read), organization.2 ?_⟩
    exact (Store.getOrganization_eq_ok_iff tables unmixed).2
      ⟨sound.owner_of_getDeviceById read, rfl⟩
  case organizations =>
    refine ⟨s.organizations.mergeSort fun a b => a.name ≤ b.name, ?_, fun g => ?_⟩
    · rw [Store.perform, Store.listOrganizations_eq tables]
      rfl
    · rw [Store.perform, Store.perform, organization, organization, List.mem_mergeSort,
        Store.getOrganization_eq_ok_iff tables unmixed,
        Store.getOrganizationByName_eq_ok_iff tables unmixed]
      exact ⟨(and_iff_left rfl).symm, (and_iff_left rfl).trans (and_iff_left rfl).symm⟩

theorem MemoryTables.Attained.consistent {t : MemoryTables} (attained : t.Attained) :
    Consistent (fun call => (t.perform call).1) t.organizations.values
      (t.devices.values.map DeviceRecord.row) := by
  obtain ⟨s, attained, h⟩ := attained.represents
  have sound := attained.sound
  have unmixed := attained.unmixed
  refine attained.consistent.congr (h.organizations.values_perm unmixed.ids)
    ((h.devices.values_perm (Represents.device_ids sound)).map _) fun call fresh => ?_
  obtain ⟨_, step, _⟩ := h.perform sound unmixed fresh
  exact (congrArg Prod.fst step).symm

/-- The reads are consistent in every store that calls make out of an empty one, in memory or in a
database, and in the tables of the store in memory. -/
theorem attained_consistent :
    (∀ s : Store, s.Attained →
      Consistent (fun call => (s.perform call).1) s.organizations s.rows) ∧
    ∀ t : MemoryTables, t.Attained →
      Consistent (fun call => (t.perform call).1) t.organizations.values
        (t.devices.values.map DeviceRecord.row) :=
  ⟨fun _ attained => attained.consistent, fun _ attained => attained.consistent⟩

theorem attained_consistent_acme :
    (∃ s : Store, s.kind = .database ∧ s.rows.length = 1 ∧
      Consistent (fun call => (s.perform call).1) s.organizations s.rows) ∧
    ∃ t : MemoryTables, t.devices.values.length = 1 ∧
      Consistent (fun call => (t.perform call).1) t.organizations.values
        (t.devices.values.map DeviceRecord.row) := by
  have organization := Store.Attained.database.perform
    (.createOrganization "o" ⟨"acme", "", "", ""⟩) nofun
  have device := organization.perform
    (.createDevice "d" ⟨"o", "b", "m", "s", ⟨"", "", "", ""⟩⟩) trivial
  have organization' := MemoryTables.Attained.empty.perform
    (.createOrganization "o" ⟨"acme", "", "", ""⟩) nofun
  have device' := organization'.perform
    (.createDevice "d" ⟨"o", "b", "m", "s", ⟨"", "", "", ""⟩⟩) trivial
  refine ⟨⟨_, ?_, ?_, attained_consistent.1 _ device⟩, _, ?_, attained_consistent.2 _ device'⟩
  · decide +kernel
  · decide +kernel
  · decide +kernel

end FleetIdentity
