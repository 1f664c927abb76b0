import FleetIdentity.Proofs.Store.Answers
import Mathlib.Data.List.Find

/-!
# What the reads of a store answer

A store is read as two lists, its organizations and its rows, and a sound store shows each of its
rows as one enrollment. Both kinds answer alike then: a read of one device is a search in the rows,
and the devices of an organization are a selection of the enrollments. Only the order of that
selection is left open here.
-/

namespace FleetIdentity

/-- What was found, or a failure. -/
def foundOr {α : Type} (failure : IdentityError) : Option α → Except IdentityError α
  | some a => .ok a
  | none => .error failure

theorem foundOr_eq_ok_iff {α : Type} {failure : IdentityError} {found : Option α} {a : α} :
    foundOr failure found = .ok a ↔ found = some a := by
  cases found <;> simp [foundOr]

theorem foundOr_eq_error {α : Type} {failure e : IdentityError} {found : Option α}
    (h : foundOr failure found = .error e) : e = failure := by
  cases found with
  | some a => cases h
  | none =>
    cases h
    rfl

/-- What a store lists a device by: what it finds the device by. -/
def StoreKind.listKey (kind : StoreKind) (e : Enrollment) : List String :=
  kind.lookupKey e.device.brand e.device.model e.device.serialNumber

theorem cons_le_cons_iff {a b : String} {l l' : List String} :
    (a :: l).le (b :: l') ↔ a < b ∨ (a = b ∧ l.le l') :=
  List.cons_le_cons_iff

theorem DeviceRow.precedes_iff {a b : DeviceRow} :
    a.precedes b = true ↔ List.le (StoreKind.database.keyOf a) (StoreKind.database.keyOf b) := by
  show _ ↔ List.le [a.device.brand, a.device.model, a.device.serialNumber]
    [b.device.brand, b.device.model, b.device.serialNumber]
  rw [cons_le_cons_iff, cons_le_cons_iff, cons_le_cons_iff, DeviceRow.precedes]
  split
  · next brand => simp [brand]
  · next brand =>
    rw [not_not] at brand
    split
    · next model => simp [brand, model]
    · next model =>
      rw [not_not] at model
      simp [brand, model, Std.le_iff_lt_or_eq]

theorem naturalKey_le_iff {a b : Enrollment} :
    decide (a.device.naturalKey ≤ b.device.naturalKey) = true ↔
      List.le (StoreKind.memory.listKey a) (StoreKind.memory.listKey b) := by
  show _ ↔ List.le [a.device.naturalKey] [b.device.naturalKey]
  rw [cons_le_cons_iff, decide_eq_true_iff, Std.le_iff_lt_or_eq]
  simp

theorem pairwise_mergeSort_key {α : Type} {le : α → α → Bool} (key : α → List String)
    (sorted : ∀ {a b}, le a b = true ↔ List.le (key a) (key b)) (l : List α) :
    (l.mergeSort le).Pairwise fun a b => List.le (key a) (key b) := by
  refine (List.pairwise_mergeSort ?_ ?_ l).imp sorted.1
  · intro a b c ab bc
    exact sorted.2 (List.le_trans (sorted.1 ab) (sorted.1 bc))
  · intro a b
    rw [Bool.or_eq_true, sorted, sorted]
    exact List.le_total _ _

namespace Store

variable {s : Store} {r : DeviceRow} {e : Enrollment}

/-- The enrollment of a row, if its owner is there and its status can be read. -/
def enrollment? (s : Store) (r : DeviceRow) : Option Enrollment :=
  (s.organizations.find? (·.id == r.organizationId)).bind fun owner =>
    (Status.ofCode? r.statusCode).map fun status => r.toEnrollment owner status

/-- The enrollments of a store, in the order in which the devices were registered. -/
def enrollments (s : Store) : List Enrollment :=
  s.rows.filterMap s.enrollment?

/-- The first row with a property as an enrollment, or a failure. -/
def readRow (s : Store) (failure : IdentityError) (p : DeviceRow → Bool) :
    Except IdentityError Enrollment :=
  foundOr failure ((s.rows.find? p).bind s.enrollment?)

theorem enrollment?_eq_some_iff : s.enrollment? r = some e ↔ ∃ o status,
    s.organizations.find? (·.id == r.organizationId) = some o ∧
      r.statusCode = Status.code status ∧ e = r.toEnrollment o status := by
  rw [enrollment?, Option.bind_eq_some_iff]
  constructor
  · rintro ⟨o, owner, h⟩
    obtain ⟨status, code, rfl⟩ := Option.map_eq_some_iff.1 h
    exact ⟨o, status, owner, Status.ofCode?_eq_some_iff.1 code, rfl⟩
  · rintro ⟨o, status, owner, code, rfl⟩
    exact ⟨o, owner, Option.map_eq_some_iff.2 ⟨status, Status.ofCode?_eq_some_iff.2 code, rfl⟩⟩

/-- An enrollment shows the id, the device and the owner of its row. -/
theorem eq_of_enrollment? (h : s.enrollment? r = some e) :
    e.id = r.id ∧ e.device = r.device ∧ e.organization ∈ s.organizations ∧
      e.organization.id = r.organizationId := by
  obtain ⟨o, status, owner, _, rfl⟩ := enrollment?_eq_some_iff.1 h
  obtain ⟨mem, owned⟩ := mem_of_find?_beq owner
  exact ⟨rfl, rfl, mem, owned⟩

theorem Sound.enrollment? (h : s.Sound) (mem : r ∈ s.rows) : ∃ e, s.enrollment? r = some e := by
  obtain ⟨o, o_mem, owned⟩ := h.owned r mem
  obtain ⟨status, code⟩ := h.readable r mem
  have there : (s.organizations.find? (·.id == r.organizationId)).isSome :=
    List.find?_isSome.2 ⟨o, o_mem, beq_iff_eq.2 owned⟩
  obtain ⟨owner, found⟩ := Option.isSome_iff_exists.1 there
  exact ⟨_, enrollment?_eq_some_iff.2 ⟨owner, status, found, code, rfl⟩⟩

/-! ### Reading a row in either store -/

theorem enrollment_memory {t : MemoryStore} {record : DeviceRecord} :
    t.enrollment record = .ok e ↔ (Store.memory t).enrollment? record.row = some e := by
  rw [MemoryStore.enrollment_eq_ok_iff, enrollment?_eq_some_iff]
  constructor
  · rintro ⟨o, owner, rfl⟩
    exact ⟨o, record.status, owner, rfl, rfl⟩
  · rintro ⟨o, status, owner, code, rfl⟩
    obtain rfl : record.status = status := Status.code_inj.1 code
    exact ⟨o, owner, rfl⟩

theorem enrollment_database {t : Database} {o : Organization}
    (owner : (Store.database t).organizations.find? (·.id == r.organizationId) = some o) :
    r.enrollment o = .ok e ↔ (Store.database t).enrollment? r = some e := by
  rw [DeviceRow.enrollment_eq_ok_iff, enrollment?_eq_some_iff]
  constructor
  · rintro ⟨status, code, rfl⟩
    exact ⟨o, status, owner, code, rfl⟩
  · rintro ⟨other, status, found, code, rfl⟩
    cases owner.symm.trans found
    exact ⟨status, code, rfl⟩

theorem joined_eq {t : Database} (tables : (Store.database t).HasTables) :
    t.joined = .ok ((Store.database t).rows.filterMap fun r =>
      ((Store.database t).organizations.find? (·.id == r.organizationId)).map fun o => (r, o)) := by
  obtain ⟨owners, devices⟩ := tables
  obtain ⟨organizations, owners⟩ := Option.isSome_iff_exists.1 owners
  obtain ⟨rows, devices⟩ := Option.isSome_iff_exists.1 devices
  rw [Database.joined, Database.deviceRows_eq_ok_iff.2 devices,
    Database.organizationRows_eq_ok_iff.2 owners, rows_database devices,
    organizations_database owners]
  rfl

/-- A search in the joined rows of a database is a search in its rows. -/
theorem Sound.read_joined {t : Database} (h : Sound (.database t)) (failure : IdentityError)
    (p : DeviceRow → Bool) :
    (t.joined >>= fun joined => match joined.find? (fun x => p x.1) with
      | some (r, o) => r.enrollment o
      | none => throw failure) = (Store.database t).readRow failure p := by
  rw [joined_eq h.hasTables, readRow]
  simp only [bind, Except.bind]
  rw [List.find?_filterMap]
  have same : ∀ r ∈ (Store.database t).rows,
      (((Store.database t).organizations.find? (·.id == r.organizationId)).map
        fun o => (r, o)).any (fun x => p x.1) = p r := by
    intro r mem
    obtain ⟨e, shown⟩ := h.enrollment? mem
    obtain ⟨o, _, owner, _⟩ := enrollment?_eq_some_iff.1 shown
    rw [owner]
    rfl
  rw [List.find?_congr same]
  cases found : (Store.database t).rows.find? p with
  | none => rfl
  | some r =>
    obtain ⟨e, shown⟩ := h.enrollment? (List.mem_of_find?_eq_some found)
    obtain ⟨o, _, owner, _⟩ := enrollment?_eq_some_iff.1 shown
    simp only [Option.bind_some, owner, Option.map_some, shown]
    exact (enrollment_database owner).2 shown

theorem keyOf_memory (record : DeviceRecord) (brand model serialNumber : String) :
    (StoreKind.memory.keyOf record.row == StoreKind.memory.lookupKey brand model serialNumber) =
      (record.device.naturalKey == naturalKey brand model serialNumber) := by
  rw [Bool.eq_iff_iff, beq_iff_eq, beq_iff_eq]
  exact ⟨fun same => (List.cons.inj same).1, fun same => congrArg (fun k => [k]) same⟩

theorem keyOf_database (r : DeviceRow) (brand model serialNumber : String) :
    (StoreKind.database.keyOf r == StoreKind.database.lookupKey brand model serialNumber) =
      r.isOf brand model serialNumber := by
  rw [Bool.eq_iff_iff, DeviceRow.isOf_iff, beq_iff_eq]

theorem deviceById_eq (t : MemoryStore) (id : String) :
    t.deviceById id = foundOr (.deviceNotFound id) (t.findDevice id) := by
  unfold MemoryStore.deviceById
  split
  · next found => rw [found, foundOr]
  · next missing => rw [missing, foundOr]

theorem deviceByKey_eq (t : MemoryStore) (key : String) :
    t.deviceByKey key = foundOr (.deviceNotFound key) (t.findDeviceKeyed key) := by
  unfold MemoryStore.deviceByKey
  split
  · next found => rw [found, foundOr]
  · next missing => rw [missing, foundOr]

/-- A search in the records of a store in memory is a search in its rows. -/
theorem Sound.read_record {t : MemoryStore} (h : Sound (.memory t)) (p : DeviceRow → Bool)
    {failure : IdentityError} {found : Except IdentityError DeviceRecord}
    (search : found = foundOr failure (t.devices.find? fun record => p record.row)) :
    found >>= t.enrollment = (Store.memory t).readRow failure p := by
  have rows : (Store.memory t).rows.find? p =
      (t.devices.find? fun record => p record.row).map DeviceRecord.row := List.find?_map
  rw [search, readRow, rows]
  cases hit : t.devices.find? fun record => p record.row with
  | none => rfl
  | some record =>
    obtain ⟨e, shown⟩ := h.enrollment? (List.mem_map_of_mem (List.mem_of_find?_eq_some hit))
    simp only [Option.map_some, Option.bind_some, shown]
    exact enrollment_memory.2 shown

theorem getDeviceById_eq (h : s.Sound) (id : String) :
    s.getDeviceById id = s.readRow (.deviceNotFound id) (·.id == id) := by
  cases s with
  | memory t =>
    exact h.read_record (·.id == id) (deviceById_eq t id)
  | database t => exact h.read_joined (.deviceNotFound id) (·.id == id)

theorem getDevice_eq (h : s.Sound) (brand model serialNumber : String) :
    s.getDevice brand model serialNumber =
      s.readRow (.deviceNotFound (naturalKey brand model serialNumber))
        fun r => s.kind.keyOf r == s.kind.lookupKey brand model serialNumber := by
  cases s with
  | memory t =>
    refine h.read_record (fun r => StoreKind.memory.keyOf r ==
      StoreKind.memory.lookupKey brand model serialNumber) ?_
    simp only [keyOf_memory]
    exact deviceByKey_eq t _
  | database t =>
    simp only [Store.kind, keyOf_database]
    exact h.read_joined (.deviceNotFound (naturalKey brand model serialNumber))
      (·.isOf brand model serialNumber)

/-! ### What a read of a device finds -/

theorem mem_enrollments : e ∈ s.enrollments ↔ ∃ r ∈ s.rows, s.enrollment? r = some e :=
  List.mem_filterMap

/-- Different enrollments are listed by different keys. -/
theorem Sound.eq_of_listKey (h : s.Sound) {a b : Enrollment} (ha : a ∈ s.enrollments)
    (hb : b ∈ s.enrollments) (same : s.kind.listKey a = s.kind.listKey b) : a = b := by
  obtain ⟨r, r_mem, shown⟩ := mem_enrollments.1 ha
  obtain ⟨r', r'_mem, shown'⟩ := mem_enrollments.1 hb
  rw [StoreKind.listKey, StoreKind.listKey, (eq_of_enrollment? shown).2.1,
    (eq_of_enrollment? shown').2.1] at same
  obtain rfl := List.inj_on_of_nodup_map h.keys r_mem r'_mem same
  exact Option.some.inj (shown.symm.trans shown')

theorem readRow_eq_ok_iff {failure : IdentityError} {p : DeviceRow → Bool}
    (unique : ∀ a ∈ s.rows, ∀ b ∈ s.rows, p a = true → p b = true → a = b) :
    s.readRow failure p = .ok e ↔ ∃ r ∈ s.rows, p r = true ∧ s.enrollment? r = some e := by
  rw [readRow, foundOr_eq_ok_iff, Option.bind_eq_some_iff]
  constructor
  · rintro ⟨r, found, shown⟩
    exact ⟨r, List.mem_of_find?_eq_some found, List.find?_some found, shown⟩
  · rintro ⟨r, mem, hit, shown⟩
    have there : (s.rows.find? p).isSome := List.find?_isSome.2 ⟨r, mem, hit⟩
    obtain ⟨other, found⟩ := Option.isSome_iff_exists.1 there
    obtain rfl := unique other (List.mem_of_find?_eq_some found) r mem (List.find?_some found) hit
    exact ⟨other, found, shown⟩

theorem getDeviceById_eq_ok_iff (h : s.Sound) {id : String} :
    s.getDeviceById id = .ok e ↔ e ∈ s.enrollments ∧ e.id = id := by
  have unique : ∀ a ∈ s.rows, ∀ b ∈ s.rows, (a.id == id) = true → (b.id == id) = true → a = b := by
    intro a ha b hb a_id b_id
    exact DeviceRow.eq_of_id h.ids ha hb ((beq_iff_eq.1 a_id).trans (beq_iff_eq.1 b_id).symm)
  rw [getDeviceById_eq h, readRow_eq_ok_iff unique, mem_enrollments]
  constructor
  · rintro ⟨r, mem, hit, shown⟩
    exact ⟨⟨r, mem, shown⟩, (eq_of_enrollment? shown).1.trans (beq_iff_eq.1 hit)⟩
  · rintro ⟨⟨r, mem, shown⟩, rfl⟩
    exact ⟨r, mem, beq_iff_eq.2 (eq_of_enrollment? shown).1.symm, shown⟩

/-- A sound store shows each of its rows under the id of the row. -/
theorem Sound.getDeviceById_of_mem (h : s.Sound) (mem : r ∈ s.rows) : ∃ o status,
    s.getDeviceById r.id = .ok (r.toEnrollment o status) ∧ r.statusCode = Status.code status := by
  obtain ⟨e, shown⟩ := h.enrollment? mem
  obtain ⟨o, status, _, code, rfl⟩ := enrollment?_eq_some_iff.1 shown
  exact ⟨o, status, (getDeviceById_eq_ok_iff h).2 ⟨mem_enrollments.2 ⟨r, mem, shown⟩, rfl⟩, code⟩

theorem getDevice_eq_ok_iff (h : s.Sound) {brand model serialNumber : String} :
    s.getDevice brand model serialNumber = .ok e ↔ e ∈ s.enrollments ∧
      s.kind.lookupKey e.device.brand e.device.model e.device.serialNumber =
        s.kind.lookupKey brand model serialNumber := by
  have unique : ∀ a ∈ s.rows, ∀ b ∈ s.rows,
      (s.kind.keyOf a == s.kind.lookupKey brand model serialNumber) = true →
      (s.kind.keyOf b == s.kind.lookupKey brand model serialNumber) = true → a = b := by
    intro a ha b hb a_key b_key
    exact List.inj_on_of_nodup_map h.keys ha hb
      ((beq_iff_eq.1 a_key).trans (beq_iff_eq.1 b_key).symm)
  rw [getDevice_eq h, readRow_eq_ok_iff unique, mem_enrollments]
  constructor
  · rintro ⟨r, mem, hit, shown⟩
    refine ⟨⟨r, mem, shown⟩, ?_⟩
    rw [(eq_of_enrollment? shown).2.1]
    exact beq_iff_eq.1 hit
  · rintro ⟨⟨r, mem, shown⟩, same⟩
    rw [(eq_of_enrollment? shown).2.1] at same
    exact ⟨r, mem, beq_iff_eq.2 same, shown⟩

/-! ### Organizations -/

theorem getOrganization_eq (tables : s.HasTables) (id : String) :
    s.getOrganization id =
      foundOr (.organizationNotFound id) (s.organizations.find? (·.id == id)) := by
  cases s with
  | memory t =>
    rw [Store.getOrganization, MemoryStore.getOrganization, MemoryStore.findOrganization,
      Store.organizations]
    cases t.organizations.find? (·.id == id) <;> rfl
  | database t =>
    obtain ⟨organizations, owners⟩ := Option.isSome_iff_exists.1 tables.1
    rw [Store.getOrganization, Database.getOrganization,
      Database.organizationRows_eq_ok_iff.2 owners, organizations_database owners]
    simp only [bind, Except.bind]
    cases organizations.find? (·.id == id) <;> rfl

theorem getOrganizationByName_eq (tables : s.HasTables) (name : String) :
    s.getOrganizationByName name =
      foundOr (.organizationNotFound name) (s.organizations.find? (·.name == name)) := by
  cases s with
  | memory t =>
    rw [Store.getOrganizationByName, MemoryStore.getOrganizationByName,
      MemoryStore.findOrganizationNamed, Store.organizations]
    cases t.organizations.find? (·.name == name) <;> rfl
  | database t =>
    obtain ⟨organizations, owners⟩ := Option.isSome_iff_exists.1 tables.1
    rw [Store.getOrganizationByName, Database.getOrganizationByName,
      Database.organizationRows_eq_ok_iff.2 owners, organizations_database owners]
    simp only [bind, Except.bind]
    cases organizations.find? (·.name == name) <;> rfl

theorem listOrganizations_eq (tables : s.HasTables) :
    s.listOrganizations = .ok (s.organizations.mergeSort fun a b => a.name ≤ b.name) := by
  cases s with
  | memory t => rfl
  | database t =>
    obtain ⟨organizations, owners⟩ := Option.isSome_iff_exists.1 tables.1
    rw [Store.listOrganizations, Database.listOrganizations,
      Database.organizationRows_eq_ok_iff.2 owners, organizations_database owners]
    rfl

/-! ### The devices of an organization -/

theorem mapM_eq_ok {α β ε : Type} {f : α → Except ε β} {g : α → Option β} {l : List α}
    (h : ∀ a ∈ l, ∃ b, f a = .ok b ∧ g a = some b) : l.mapM f = .ok (l.filterMap g) := by
  induction l with
  | nil => rfl
  | cons a l ih =>
    obtain ⟨b, made, seen⟩ := h a List.mem_cons_self
    have later := ih fun x hx => h x (List.mem_cons_of_mem _ hx)
    rw [List.mapM_cons, made, later, List.filterMap_cons_some seen]
    rfl

/-- The rows of an organization are shown as its enrollments. -/
theorem filter_enrollments (organizationId : String) :
    s.enrollments.filter (·.organization.id == organizationId) =
      (s.rows.filter (·.organizationId == organizationId)).filterMap s.enrollment? := by
  rw [enrollments, List.filter_filterMap, List.filterMap_filter]
  refine List.filterMap_congr fun r _ => ?_
  cases shown : s.enrollment? r with
  | none => simp
  | some e =>
    rw [Option.filter_some, (eq_of_enrollment? shown).2.2.2]

/-- The joined rows of an organization are its rows, each with the organization. -/
theorem filter_joined (rows : List DeviceRow) (organizations : List Organization)
    (organizationId : String) :
    (rows.filterMap fun r => (organizations.find? (·.id == r.organizationId)).map
      fun o => (r, o)).filter (·.1.organizationId == organizationId) =
      (rows.filter (·.organizationId == organizationId)).filterMap fun r =>
        (organizations.find? (·.id == r.organizationId)).map fun o => (r, o) := by
  rw [List.filter_filterMap, List.filterMap_filter]
  refine List.filterMap_congr fun r _ => ?_
  cases organizations.find? (·.id == r.organizationId) with
  | none => simp
  | some o => rw [Option.map_some, Option.filter_some]

/-- The devices of an organization are listed in the order of what the store finds them by. -/
theorem listDevices_sorted (h : s.Sound) (organizationId : String) :
    ∃ listed, s.listDevices organizationId = .ok listed ∧
      listed.Perm (s.enrollments.filter (·.organization.id == organizationId)) ∧
      listed.Pairwise fun a b => List.le (s.kind.listKey a) (s.kind.listKey b) := by
  rw [filter_enrollments]
  cases s with
  | memory t =>
    have read : (t.devices.filter (·.organizationId == organizationId)).mapM t.enrollment =
        .ok ((t.devices.filter (·.organizationId == organizationId)).filterMap
          fun record => (Store.memory t).enrollment? record.row) := by
      refine mapM_eq_ok fun record hr => ?_
      have mem : record.row ∈ (Store.memory t).rows :=
        List.mem_map_of_mem (List.mem_filter.1 hr).1
      obtain ⟨e, shown⟩ := h.enrollment? mem
      exact ⟨e, enrollment_memory.2 shown, shown⟩
    have rows : ((Store.memory t).rows.filter (·.organizationId == organizationId)).filterMap
        (Store.memory t).enrollment? = (t.devices.filter
          (·.organizationId == organizationId)).filterMap
            fun record => (Store.memory t).enrollment? record.row := by
      rw [Store.rows, List.filter_map, List.filterMap_map]
      rfl
    rw [Store.listDevices, MemoryStore.listDevices, read, rows]
    refine ⟨_, rfl, List.mergeSort_perm _ _, ?_⟩
    exact pairwise_mergeSort_key StoreKind.memory.listKey naturalKey_le_iff _
  | database t =>
    rw [Store.listDevices, Database.listDevices, joined_eq h.hasTables]
    simp only [bind, Except.bind]
    rw [filter_joined]
    refine ⟨_, mapM_eq_ok (g := fun x => (Store.database t).enrollment? x.1) ?_, ?_, ?_⟩
    · rintro ⟨r, o⟩ hx
      obtain ⟨other, mem, found⟩ := List.mem_filterMap.1 (List.mem_mergeSort.1 hx)
      obtain ⟨owner, owner_found, eq⟩ := Option.map_eq_some_iff.1 found
      cases eq
      obtain ⟨e, shown⟩ := h.enrollment? (List.mem_filter.1 mem).1
      exact ⟨e, (enrollment_database owner_found).2 shown, shown⟩
    · refine ((List.mergeSort_perm _ _).filterMap _).trans (.of_eq ?_)
      rw [List.filterMap_filterMap]
      refine List.filterMap_congr fun r _ => ?_
      cases owner : (Store.database t).organizations.find? (·.id == r.organizationId) with
      | none =>
        rw [enrollment?, owner]
        rfl
      | some o => rfl
    · have sorted := pairwise_mergeSort_key
        (fun x : DeviceRow × Organization => StoreKind.database.keyOf x.1) DeviceRow.precedes_iff
      refine (sorted _).filterMap _ ?_
      intro a b before e shown e' shown'
      rw [StoreKind.listKey, StoreKind.listKey, (eq_of_enrollment? shown).2.1,
        (eq_of_enrollment? shown').2.1]
      exact before

/-- The keys of the devices differ, so that there is only one such order. -/
theorem Sound.listDevices_eq_ok (h : s.Sound) {organizationId : String} {listed : List Enrollment}
    (perm : listed.Perm (s.enrollments.filter (·.organization.id == organizationId)))
    (sorted : listed.Pairwise fun a b => List.le (s.kind.listKey a) (s.kind.listKey b)) :
    s.listDevices organizationId = .ok listed := by
  obtain ⟨found, read, found_perm, found_sorted⟩ := listDevices_sorted h organizationId
  have same : found.Perm listed := found_perm.trans perm.symm
  have in_store : ∀ e ∈ listed, e ∈ s.enrollments :=
    fun e he => List.mem_of_mem_filter (perm.mem_iff.1 he)
  have equal : found = listed := by
    refine same.eq_of_pairwise ?_ found_sorted sorted
    intro a b ha hb ab ba
    exact h.eq_of_listKey (in_store a (same.mem_iff.1 ha)) (in_store b hb) (List.le_antisymm ab ba)
  rw [read, equal]

theorem listDevices_perm (h : s.Sound) (organizationId : String) :
    ∃ listed, s.listDevices organizationId = .ok listed ∧
      listed.Perm (s.enrollments.filter (·.organization.id == organizationId)) := by
  obtain ⟨listed, read, perm, _⟩ := listDevices_sorted h organizationId
  exact ⟨listed, read, perm⟩

end Store

end FleetIdentity
