import FleetIdentity.Proofs.Store.Reads

/-!
# What the writes of a store answer

Both kinds of store make the same checks in the same order. A new organization or device is checked
against the two lists of the store; a change of a device starts like the read of it, so that it
fails where the read does, and then depends on the status that was read.

Only the answers are described here. What a successful write leaves in the store is said by
`createOrganization_ok` and its like.
-/

namespace FleetIdentity.Store

variable {s : Store}

theorem map_answer {α σ : Type} {toStore : σ → Store} {outcome : Except IdentityError (α × σ)} :
    (answer toStore outcome).map (·.1) = outcome.map (·.1) := by
  cases outcome <;> rfl

theorem map_done {σ : Type} {toStore : σ → Store} {outcome : Except IdentityError σ} :
    (done toStore outcome).map (·.1) = outcome.map fun _ => () := by
  cases outcome <;> rfl

/-! ### New organizations and devices -/

theorem createOrganization_answer (tables : s.HasTables) {id : String}
    (fresh : ∀ o ∈ s.organizations, o.id ≠ id) (new : NewOrganization) :
    (s.createOrganization id new).map (·.1) = do
      requireField "name" new.name
      if s.organizations.any (·.name == new.name) then throw (.organizationExists new.name)
      return id := by
  cases s with
  | memory t =>
    rw [Store.createOrganization, map_answer, MemoryStore.createOrganization,
      MemoryStore.findOrganizationNamed, List.isSome_find?, Store.organizations]
    cases requireField "name" new.name with
    | error e => rfl
    | ok _ => cases t.organizations.any (·.name == new.name) <;> rfl
  | database t =>
    obtain ⟨organizations, owners⟩ := Option.isSome_iff_exists.1 tables.1
    rw [organizations_database owners] at fresh ⊢
    have same : organizations.any (fun o => o.name == new.name || o.id == id) =
        organizations.any (·.name == new.name) := by
      rw [Bool.eq_iff_iff, List.any_eq_true, List.any_eq_true]
      refine exists_congr fun o => and_congr_right fun mem => ?_
      rw [beq_false_of_ne (fresh o mem), Bool.or_false]
    rw [Store.createOrganization, map_answer, Database.createOrganization,
      Database.organizationRows_eq_ok_iff.2 owners]
    cases requireField "name" new.name with
    | error e => rfl
    | ok _ =>
      simp only [bind, Except.bind, same]
      cases organizations.any (·.name == new.name) <;> rfl

theorem createDevice_answer (tables : s.HasTables) (id : String) (new : NewDevice) :
    (s.createDevice id new).map (·.1) = do
      new.check
      if !s.organizations.any (·.id == new.organizationId) then
        throw (.organizationNotFound new.organizationId)
      if s.rows.any (fun r => s.kind.keyOf r ==
          s.kind.lookupKey new.brand new.model new.serialNumber) then
        throw (.deviceRegistered new.naturalKey)
      if s.rows.any (·.id == id) then throw (.deviceIdTaken id)
      return id := by
  cases s with
  | memory t =>
    have keyed : (Store.memory t).rows.any (fun r => StoreKind.memory.keyOf r ==
        StoreKind.memory.lookupKey new.brand new.model new.serialNumber) =
        t.devices.any (·.device.naturalKey == new.naturalKey) := by
      rw [Store.rows, List.any_map]
      exact congrArg t.devices.any (funext fun record => keyOf_memory record _ _ _)
    have ids : (Store.memory t).rows.any (·.id == id) = t.devices.any (·.id == id) := by
      rw [Store.rows, List.any_map]
      rfl
    rw [Store.createDevice, map_answer, MemoryStore.createDevice, MemoryStore.findOrganization,
      MemoryStore.findDeviceKeyed, MemoryStore.findDevice, List.isSome_find?, List.isSome_find?,
      ← Option.not_isSome, List.isSome_find?, Store.kind, keyed, ids, Store.organizations]
    cases new.check with
    | error e => rfl
    | ok _ =>
      cases t.organizations.any (·.id == new.organizationId) with
      | false => rfl
      | true =>
      cases t.devices.any (·.device.naturalKey == new.naturalKey) with
      | true => rfl
      | false => cases t.devices.any (·.id == id) <;> rfl
  | database t =>
    obtain ⟨owners, devices⟩ := tables
    obtain ⟨organizations, owners⟩ := Option.isSome_iff_exists.1 owners
    obtain ⟨rows, devices⟩ := Option.isSome_iff_exists.1 devices
    rw [Store.createDevice, map_answer, Database.createDevice,
      Database.organizationRows_eq_ok_iff.2 owners, Database.deviceRows_eq_ok_iff.2 devices,
      organizations_database owners, rows_database devices]
    simp only [Store.kind, keyOf_database]
    cases new.check with
    | error e => rfl
    | ok _ =>
      simp only [bind, Except.bind]
      cases organizations.any (·.id == new.organizationId) with
      | false => rfl
      | true =>
      cases rows.any (·.isOf new.brand new.model new.serialNumber) with
      | true => rfl
      | false => cases rows.any (·.id == id) <;> rfl

/-- What `createDevice_ok` says of a success is all that a success needs. -/
theorem createDevice_of_free (tables : s.HasTables) {id : String} {new : NewDevice}
    (checked : new.check = .ok ()) (owner : ∃ o ∈ s.organizations, o.id = new.organizationId)
    (free : ∀ r ∈ s.rows, r.id ≠ id ∧
      s.kind.keyOf r ≠ s.kind.lookupKey new.brand new.model new.serialNumber) :
    ∃ s', s.createDevice id new = .ok (id, s') := by
  have owned : s.organizations.any (·.id == new.organizationId) = true := by
    simpa using owner
  have no_key : s.rows.any (fun r => s.kind.keyOf r ==
      s.kind.lookupKey new.brand new.model new.serialNumber) = false := by
    refine List.any_eq_false.2 fun r mem hit => ?_
    exact (free r mem).2 (beq_iff_eq.1 hit)
  have no_id : s.rows.any (·.id == id) = false := by
    refine List.any_eq_false.2 fun r mem hit => ?_
    exact (free r mem).1 (beq_iff_eq.1 hit)
  have answer : (s.createDevice id new).map (·.1) = .ok id := by
    rw [createDevice_answer tables, checked, owned, no_key, no_id]
    rfl
  cases made : s.createDevice id new with
  | error e =>
    rw [made] at answer
    cases answer
  | ok pair => exact ⟨pair.2, by rw [← (createDevice_ok made).1]⟩

/-! ### Changes of a device -/

theorem Sound.enrollment_record {t : MemoryStore} (h : Sound (.memory t)) {record : DeviceRecord}
    (mem : record ∈ t.devices) : ∃ o, t.findOrganization record.organizationId = some o ∧
      t.enrollment record = .ok (record.row.toEnrollment o record.status) := by
  obtain ⟨e, shown⟩ := h.enrollment? (List.mem_map_of_mem mem)
  have read := enrollment_memory.2 shown
  obtain ⟨o, owner, rfl⟩ := MemoryStore.enrollment_eq_ok_iff.1 read
  exact ⟨o, owner, read⟩

theorem updateDeviceData_answer (h : s.Sound) (id deviceData : String) :
    (s.updateDeviceData id deviceData).map (·.1) = (s.getDeviceById id).map fun _ => () := by
  cases s with
  | memory t =>
    rw [Store.updateDeviceData, map_done, MemoryStore.updateDeviceData, Store.getDeviceById,
      MemoryStore.getDeviceById]
    cases found : t.deviceById id with
    | error e => rfl
    | ok record =>
      obtain ⟨mem, _⟩ := mem_of_find?_beq (MemoryStore.deviceById_eq_ok_iff.1 found)
      obtain ⟨o, _, read⟩ := h.enrollment_record mem
      simp only [bind, Except.bind, read]
      rfl
  | database t =>
    obtain ⟨rows, devices⟩ := Option.isSome_iff_exists.1 h.hasTables.2
    rw [getDeviceById_eq h, readRow, rows_database devices, Store.updateDeviceData, map_done,
      Database.updateDeviceData, Database.deviceRows_eq_ok_iff.2 devices]
    simp only [bind, Except.bind]
    cases found : rows.find? (·.id == id) with
    | none => rfl
    | some r =>
      have mem : r ∈ (Store.database t).rows := by
        rw [rows_database devices]
        exact List.mem_of_find?_eq_some found
      obtain ⟨e, shown⟩ := h.enrollment? mem
      rw [Option.bind_some, shown]
      rfl

theorem updateDeviceStatus_answer (h : s.Sound) (id : String) (update : StatusUpdate) :
    ∃ text, (s.updateDeviceStatus id update).map (·.1) = (do
      let current ← s.getDeviceById id
      if current.status ≠ update.expected then throw (.invalidState text)) := by
  cases s with
  | memory t =>
    rw [Store.updateDeviceStatus, map_done, MemoryStore.updateDeviceStatus, Store.getDeviceById,
      MemoryStore.getDeviceById]
    cases found : t.deviceById id with
    | error e => exact ⟨"", rfl⟩
    | ok record =>
      obtain ⟨mem, _⟩ := mem_of_find?_beq (MemoryStore.deviceById_eq_ok_iff.1 found)
      obtain ⟨o, _, read⟩ := h.enrollment_record mem
      simp only [bind, Except.bind, read]
      refine ⟨s!"device `{id}` is {record.status.name}, expected {update.expected.name}", ?_⟩
      show _ = if record.status ≠ update.expected then _ else _
      split
      · rfl
      · rfl
  | database t =>
    obtain ⟨rows, devices⟩ := Option.isSome_iff_exists.1 h.hasTables.2
    rw [getDeviceById_eq h, readRow, rows_database devices, Store.updateDeviceStatus, map_done,
      Database.updateDeviceStatus, Database.deviceRows_eq_ok_iff.2 devices]
    simp only [bind, Except.bind]
    cases found : rows.find? (·.id == id) with
    | none => exact ⟨"", rfl⟩
    | some r =>
      have mem : r ∈ (Store.database t).rows := by
        rw [rows_database devices]
        exact List.mem_of_find?_eq_some found
      obtain ⟨e, shown⟩ := h.enrollment? mem
      obtain ⟨o, status, _, code, rfl⟩ := enrollment?_eq_some_iff.1 shown
      rw [Option.bind_some, shown]
      refine ⟨s!"device `{id}` has status code {r.statusCode}, expected {update.expected.name}",
        ?_⟩
      show _ = if status ≠ update.expected then _ else _
      simp only [code, ne_eq, Status.code_inj]
      split
      · rfl
      · rfl

theorem enrollDevice_answer (h : s.Sound) (request : EnrollmentRequest) :
    (s.enrollDevice request).map (·.1) = do
      let current ← s.getDevice request.brand request.model request.serialNumber
      if current.status ≠ .waiting then
        throw (enrollmentRefusal current.status request.naturalKey)
      return { current with
        device := { current.device with
          storeId := request.storeId, deviceKey := request.deviceKey }
        status := .enrolled } := by
  cases s with
  | memory t =>
    rw [Store.enrollDevice, map_answer, MemoryStore.enrollDevice, Store.getDevice,
      MemoryStore.getDevice]
    show _ = (t.deviceByKey request.naturalKey >>= t.enrollment) >>= _
    cases found : t.deviceByKey request.naturalKey with
    | error e => rfl
    | ok record =>
      obtain ⟨mem, key⟩ := mem_of_find?_beq (MemoryStore.deviceByKey_eq_ok_iff.1 found)
      obtain ⟨o, owner, read⟩ := h.enrollment_record mem
      simp only [bind, Except.bind, read]
      show _ = if record.status ≠ .waiting then _ else _
      split
      · rw [show record.device.naturalKey = request.naturalKey from key]
        rfl
      · have enrolled : (t.replace { record with
            device := { record.device with
              storeId := request.storeId, deviceKey := request.deviceKey }
            status := .enrolled }).enrollment { record with
              device := { record.device with
                storeId := request.storeId, deviceKey := request.deviceKey }
              status := .enrolled } =
            .ok ((record.row.enrolled request).toEnrollment o .enrolled) :=
          MemoryStore.enrollment_eq_ok_iff.2 ⟨o, owner, rfl⟩
        rw [enrolled]
        rfl
  | database t =>
    rw [Store.enrollDevice, map_answer, Database.enrollDevice, Store.getDevice,
      Database.getDevice, joined_eq h.hasTables]
    simp only [bind, Except.bind]
    split
    · next missing => rw [missing]; rfl
    · next r o found =>
      simp only [found]
      cases read : r.enrollment o with
      | error e => rfl
      | ok current =>
        obtain ⟨status, _, rfl⟩ := DeviceRow.enrollment_eq_ok_iff.1 read
        cases status <;> rfl

/-! ### What an enrollment leaves -/

theorem enrollDevice_of_waiting (h : s.Sound) {request : EnrollmentRequest} {current : Enrollment}
    (found : s.getDevice request.brand request.model request.serialNumber = .ok current)
    (waiting : current.status = .waiting) :
    ∃ e s', s.enrollDevice request = .ok (e, s') ∧ e.id = current.id ∧ e.status = .enrolled ∧
      e.device = { current.device with
        storeId := request.storeId, deviceKey := request.deviceKey } ∧
      s'.getDeviceById current.id = .ok e := by
  have answer := enrollDevice_answer h request
  rw [found] at answer
  simp only [bind, Except.bind, waiting, ne_eq, not_true_eq_false, if_false] at answer
  cases made : s.enrollDevice request with
  | error e =>
    rw [made] at answer
    cases answer
  | ok pair =>
    obtain ⟨e, s'⟩ := pair
    rw [made] at answer
    obtain rfl := Except.ok.inj answer
    refine ⟨_, s', rfl, rfl, rfl, rfl, ?_⟩
    obtain ⟨r, mem, shown⟩ := mem_enrollments.1 ((getDevice_eq_ok_iff h).1 found).1
    obtain ⟨o, status, owner, _, rfl⟩ := enrollment?_eq_some_iff.1 shown
    obtain ⟨hit, hit_mem, _, _, _, _, _, same, becomes⟩ := enrollDevice_ok made
    obtain rfl := DeviceRow.eq_of_id h.ids mem hit_mem (congrArg Enrollment.id same)
    refine (getDeviceById_eq_ok_iff (h.write (.enrollDevice made))).2
      ⟨mem_enrollments.2 ⟨r.enrolled request, ?_, ?_⟩, rfl⟩
    · rw [becomes.rows_eq]
      exact DeviceRow.mem_replaceIn_self mem rfl
    · refine enrollment?_eq_some_iff.2 ⟨o, .enrolled, ?_, rfl, rfl⟩
      rw [becomes.organizations_eq]
      exact owner

end FleetIdentity.Store
