import FleetIdentity.Store.Basic
import FleetIdentity.Proofs.Except

/-!
# The two tables behind either store

Both stores hold organizations and devices. The store in memory keeps a status where the database
keeps its number; seen as rows they are the same, and what is left of their difference is by what a
device is found: one joined text in memory, three columns in the database.

For each write this module says what a success means: what held before, and what the tables are
afterwards. It says nothing about which failure comes first.
-/

namespace FleetIdentity

/-- The row that a record of the store in memory stands for. -/
def DeviceRecord.row (r : DeviceRecord) : DeviceRow where
  id := r.id
  organizationId := r.organizationId
  device := r.device
  credentials := r.credentials
  statusCode := r.status.code
  deviceData := r.deviceData

/-- The row of a device that was registered and waits for its enrollment. -/
def NewDevice.row (new : NewDevice) (id : String) : DeviceRow where
  id := id
  organizationId := new.organizationId
  device := new.toDevice
  credentials := new.credentials
  statusCode := Status.waiting.code
  deviceData := ""

namespace DeviceRow

/-- The row after its enrollment. -/
def enrolled (r : DeviceRow) (request : EnrollmentRequest) : DeviceRow :=
  { r with
    device := { r.device with storeId := request.storeId, deviceKey := request.deviceKey }
    statusCode := Status.enrolled.code }

/-- The row after a change of status. -/
def updated (r : DeviceRow) (update : StatusUpdate) : DeviceRow :=
  { r with statusCode := update.status.code, deviceData := update.deviceData }

/-- The row after an update by an administrator: a new status, and new data if they are given. -/
def administered (r : DeviceRow) (target : Status) (deviceData : Option String) : DeviceRow :=
  { r with statusCode := target.code, deviceData := deviceData.getD r.deviceData }

/-- The rows with one in the place of those with its id. -/
def replaceIn (rows : List DeviceRow) (r : DeviceRow) : List DeviceRow :=
  rows.map fun other => if other.id = r.id then r else other

/-- The enrollment of a row with its organization and the status that its number stands for. -/
def toEnrollment (r : DeviceRow) (organization : Organization) (status : Status) : Enrollment where
  id := r.id
  device := r.device
  credentials := r.credentials
  organization := organization
  status := status
  deviceData := r.deviceData

end DeviceRow

/-- The two kinds of store. -/
inductive StoreKind where
  | memory
  | database
  deriving DecidableEq

/-- What a store of a kind finds a device by. -/
def StoreKind.lookupKey (kind : StoreKind) (brand model serialNumber : String) : List String :=
  match kind with
  | .memory => [naturalKey brand model serialNumber]
  | .database => [brand, model, serialNumber]

/-- What a store of a kind finds a row by. -/
def StoreKind.keyOf (kind : StoreKind) (r : DeviceRow) : List String :=
  kind.lookupKey r.device.brand r.device.model r.device.serialNumber

namespace Store

/-- The kind of a store. -/
def kind : Store → StoreKind
  | .memory _ => .memory
  | .database _ => .database

/-- The organizations in a store. -/
def organizations : Store → List Organization
  | .memory t => t.organizations
  | .database t => t.organizations.getD []

/-- The devices in a store. -/
def rows : Store → List DeviceRow
  | .memory t => t.devices.map DeviceRecord.row
  | .database t => t.devices.getD []

/-- The devices in a store with the columns that nothing reads, which only a database has. -/
def storedRows : Store → List StoredRow
  | .memory _ => []
  | .database t => t.stored.getD []

/-- Both tables exist. -/
def HasTables : Store → Prop
  | .memory _ => True
  | .database t => t.organizations.isSome ∧ t.devices.isSome

/-- The new store is of the same kind, lacks no table that was there, and holds what is given. -/
structure Becomes (s s' : Store) (organizations : List Organization) (rows : List DeviceRow) :
    Prop where
  kind_eq : s'.kind = s.kind
  hasTables : s.HasTables → s'.HasTables
  organizations_eq : s'.organizations = organizations
  rows_eq : s'.rows = rows

theorem answer_eq_ok_iff {α σ : Type} {toStore : σ → Store}
    {outcome : Except IdentityError (α × σ)} {a : α} {s' : Store} :
    answer toStore outcome = .ok (a, s') ↔ ∃ t, outcome = .ok (a, t) ∧ toStore t = s' := by
  cases outcome with
  | error e => simp [answer]
  | ok pair =>
    obtain ⟨b, t⟩ := pair
    simp [answer, and_assoc]

theorem done_eq_ok_iff {σ : Type} {toStore : σ → Store} {outcome : Except IdentityError σ}
    {s' : Store} :
    done toStore outcome = .ok ((), s') ↔ ∃ t, outcome = .ok t ∧ toStore t = s' := by
  cases outcome with
  | error e => simp [done]
  | ok t => simp [done]

theorem done_eq_answer {σ : Type} {toStore : σ → Store} (outcome : Except IdentityError σ) :
    done toStore outcome = answer toStore (outcome.map fun t => ((), t)) := by
  cases outcome with
  | error e => rfl
  | ok t => rfl

theorem map_row_replace (records : List DeviceRecord) (r : DeviceRecord) :
    (records.map fun other => if other.id = r.id then r else other).map DeviceRecord.row =
      DeviceRow.replaceIn (records.map DeviceRecord.row) r.row := by
  rw [DeviceRow.replaceIn, List.map_map, List.map_map]
  refine List.map_congr_left fun other _ => ?_
  show DeviceRecord.row (if other.id = r.id then r else other) =
    if other.id = r.id then r.row else other.row
  split
  · rfl
  · rfl

end Store

theorem mem_of_find?_beq {α : Type} {key : α → String} {wanted : String} {entries : List α} {a : α}
    (h : entries.find? (fun x => key x == wanted) = some a) : a ∈ entries ∧ key a = wanted := by
  refine ⟨List.mem_of_find?_eq_some h, ?_⟩
  simpa using List.find?_some h

theorem mem_getD_nil_iff {α : Type} {entries : Option (List α)} {a : α} :
    a ∈ entries.getD [] ↔ ∃ l, entries = some l ∧ a ∈ l := by
  cases entries with
  | none => simp
  | some l => simp

/-! ### The tables of a database -/

namespace Database

theorem organizationRows_eq_ok_iff {t : Database} {organizations : List Organization} :
    t.organizationRows = .ok organizations ↔ t.organizations = some organizations := by
  unfold organizationRows
  split
  · next there => simp [there]
  · next missing => simp [missing]

theorem deviceRows_eq_ok_iff {t : Database} {rows : List DeviceRow} :
    t.deviceRows = .ok rows ↔ t.devices = some rows := by
  unfold deviceRows
  split
  · next there => simp [there]
  · next missing => simp [missing]

theorem mem_joined {t : Database} {joined : List (DeviceRow × Organization)}
    (h : t.joined = .ok joined) {r : DeviceRow} {o : Organization} (m : (r, o) ∈ joined) :
    t.devices.isSome ∧ r ∈ t.devices.getD [] ∧ o ∈ t.organizations.getD [] ∧
      o.id = r.organizationId := by
  simp only [Database.joined, bind_eq_ok_iff, deviceRows_eq_ok_iff, organizationRows_eq_ok_iff]
    at h
  obtain ⟨rows, devices, organizations, owners, h⟩ := h
  cases h
  obtain ⟨other, mem, found⟩ := List.mem_filterMap.1 m
  obtain ⟨owner, owner_found, eq⟩ := Option.map_eq_some_iff.1 found
  cases eq
  rw [devices, owners]
  exact ⟨rfl, mem, mem_of_find?_beq owner_found⟩

end Database

theorem DeviceRow.isOf_iff {r : DeviceRow} {brand model serialNumber : String} :
    r.isOf brand model serialNumber = true ↔
      StoreKind.database.keyOf r = StoreKind.database.lookupKey brand model serialNumber := by
  simp [DeviceRow.isOf, StoreKind.keyOf, StoreKind.lookupKey, and_assoc]

theorem DeviceRow.enrollment_eq_ok_iff {r : DeviceRow} {o : Organization} {e : Enrollment} :
    r.enrollment o = .ok e ↔
      ∃ status, r.statusCode = Status.code status ∧ e = r.toEnrollment o status := by
  unfold DeviceRow.enrollment
  split
  · next unreadable =>
    constructor
    · intro h
      cases h
    · rintro ⟨status, code, _⟩
      rw [Status.ofCode?_eq_some_iff.2 code] at unreadable
      cases unreadable
  · next status readable =>
    have code := Status.ofCode?_eq_some_iff.1 readable
    constructor
    · intro h
      cases h
      exact ⟨status, code, rfl⟩
    · rintro ⟨other, other_code, rfl⟩
      rw [Status.ofCode?_eq_some_iff.2 other_code] at readable
      cases readable
      rfl

namespace Database

/-! ### What a successful write does to a database -/

variable {t t' : Database} {rows : List DeviceRow} {id : String}

theorem devices_insert (h : t.devices = some rows) (r : DeviceRow) :
    (t.insert r).devices = some (rows ++ [r]) := by
  obtain ⟨stored, there, rfl⟩ := Option.map_eq_some_iff.1 h
  simp [devices, insert, there]

theorem devices_change (h : t.devices = some rows) (selects : DeviceRow → Bool)
    (f : DeviceRow → DeviceRow) :
    (t.change selects f).devices = some (rows.map fun r => if selects r then f r else r) := by
  rw [change, h]
  split
  · obtain ⟨stored, there, rfl⟩ := Option.map_eq_some_iff.1 h
    simp only [devices, there, Option.map_some, List.map_map, Option.some.injEq]
    refine List.map_congr_left fun r _ => ?_
    show (if selects r.row then ({ r with row := f r.row, modified := t.writes } : StoredRow)
      else r).row = if selects r.row then f r.row else r.row
    split
    · rfl
    · rfl
  · next unselected =>
    rw [h, Option.some.injEq]
    refine ((List.map_congr_left fun r mem => if_neg fun hit => ?_).trans (List.map_id' rows)).symm
    exact unselected (List.any_eq_true.2 ⟨r, mem, hit⟩)

/-- A change that selects no row changes nothing. -/
theorem change_of_none (h : t.devices = some rows) {selects : DeviceRow → Bool}
    (unselected : ∀ r ∈ rows, selects r = false) (f : DeviceRow → DeviceRow) :
    t.change selects f = t := by
  refine if_neg fun hit => ?_
  rw [h] at hit
  obtain ⟨r, mem, selected⟩ := List.any_eq_true.1 hit
  exact absurd selected (Bool.eq_false_iff.1 (unselected r mem))

/-- A change is told by the rows of the table that it selects and by what it makes of these. -/
theorem change_congr (h : t.devices = some rows) {selects selects' : DeviceRow → Bool}
    {f g : DeviceRow → DeviceRow} (same : ∀ r ∈ rows, selects r = selects' r)
    (agree : ∀ r ∈ rows, selects r = true → f r = g r) :
    t.change selects f = t.change selects' g := by
  obtain ⟨stored, there, rfl⟩ := Option.map_eq_some_iff.1 h
  have any_eq : (stored.map (·.row)).any selects = (stored.map (·.row)).any selects' := by
    rw [Bool.eq_iff_iff, List.any_eq_true, List.any_eq_true]
    exact exists_congr fun r => and_congr_right fun mem => by rw [same r mem]
  have map_eq : (stored.map fun r =>
        if selects r.row then { r with row := f r.row, modified := t.writes } else r) =
      stored.map fun r =>
        if selects' r.row then { r with row := g r.row, modified := t.writes } else r := by
    refine List.map_congr_left fun r mem => ?_
    have row_mem : r.row ∈ stored.map (·.row) := List.mem_map_of_mem mem
    rw [← same _ row_mem]
    split
    · next selected => rw [agree _ row_mem selected]
    · rfl
  rw [change, change, h, there, Option.getD_some, any_eq, Option.map_some, Option.map_some, map_eq]

theorem devices_replace (h : t.devices = some rows) (r : DeviceRow) :
    (t.replace r).devices = some (DeviceRow.replaceIn rows r) := by
  rw [replace, devices_change h, DeviceRow.replaceIn]
  simp only [beq_iff_eq]

@[simp] theorem organizations_change (t : Database) (selects : DeviceRow → Bool)
    (f : DeviceRow → DeviceRow) : (t.change selects f).organizations = t.organizations := by
  rw [change]
  split
  · rfl
  · rfl

@[simp] theorem organizations_replace (t : Database) (r : DeviceRow) :
    (t.replace r).organizations = t.organizations :=
  organizations_change t _ _

/-- A row that a change does not select keeps all its columns. -/
theorem mem_stored_change {r : StoredRow} (mem : r ∈ t.stored.getD []) (selects : DeviceRow → Bool)
    (f : DeviceRow → DeviceRow) (other : selects r.row = false) :
    r ∈ (t.change selects f).stored.getD [] := by
  rw [change]
  split
  · obtain ⟨stored, there, mem⟩ := mem_getD_nil_iff.1 mem
    simp only [there, Option.map_some, Option.getD_some]
    refine List.mem_map.2 ⟨r, mem, ?_⟩
    rw [other]
    rfl
  · exact mem

/-- A row that is added leaves the others as they are. -/
theorem mem_stored_insert {r : StoredRow} (mem : r ∈ t.stored.getD []) (added : DeviceRow) :
    r ∈ (t.insert added).stored.getD [] := by
  obtain ⟨stored, there, mem⟩ := mem_getD_nil_iff.1 mem
  simp only [insert, there, Option.map_some, Option.getD_some]
  exact List.mem_append_left _ mem

theorem createOrganization_ok {answer : String} {new : NewOrganization}
    (h : t.createOrganization id new = .ok (answer, t')) :
    ∃ organizations, t.organizations = some organizations ∧ answer = id ∧
      isBlank new.name = false ∧ (∀ o ∈ organizations, o.name ≠ new.name) ∧
      t' = { t with
        organizations := some (organizations ++
          [⟨id, new.name, new.country, new.rootKey, new.rootCert⟩]) } := by
  simp only [createOrganization, bind_eq_ok_iff, organizationRows_eq_ok_iff] at h
  obtain ⟨_, named, organizations, there, h⟩ := h
  split at h
  · cases h
  next free =>
    cases h
    refine ⟨organizations, there, rfl, requireField_eq_ok_iff.1 named, fun o mem same => ?_, rfl⟩
    exact free (List.any_eq_true.2 ⟨o, mem, by simp [same]⟩)

theorem createDevice_ok {answer : String} {new : NewDevice}
    (h : t.createDevice id new = .ok (answer, t')) :
    ∃ organizations rows, t.organizations = some organizations ∧ t.devices = some rows ∧
      answer = id ∧ new.check = .ok () ∧ (∃ o ∈ organizations, o.id = new.organizationId) ∧
      (∀ r ∈ rows, r.id ≠ id ∧ StoreKind.database.keyOf r ≠
        StoreKind.database.lookupKey new.brand new.model new.serialNumber) ∧
      t' = t.insert (new.row id) := by
  simp only [createDevice, bind_eq_ok_iff, organizationRows_eq_ok_iff] at h
  obtain ⟨_, checked, organizations, owners, h⟩ := h
  split at h
  · cases h
  next owned =>
  simp only [bind_eq_ok_iff, deviceRows_eq_ok_iff] at h
  obtain ⟨rows, devices, h⟩ := h
  split at h
  · cases h
  next key_free =>
  split at h
  · cases h
  next id_free =>
    cases h
    refine ⟨organizations, rows, owners, devices, rfl, checked, by simpa using owned, ?_, rfl⟩
    intro r mem
    constructor
    · intro same
      exact id_free (List.any_eq_true.2 ⟨r, mem, beq_iff_eq.2 same⟩)
    · intro same
      exact key_free (List.any_eq_true.2 ⟨r, mem, DeviceRow.isOf_iff.2 same⟩)

theorem enrollDevice_ok {request : EnrollmentRequest} {e : Enrollment}
    (h : t.enrollDevice request = .ok (e, t')) :
    ∃ rows, t.devices = some rows ∧ ∃ r ∈ rows, ∃ o ∈ t.organizations.getD [],
      o.id = r.organizationId ∧
      StoreKind.database.keyOf r =
        StoreKind.database.lookupKey request.brand request.model request.serialNumber ∧
      r.statusCode = Status.waiting.code ∧
      e = (r.enrolled request).toEnrollment o .enrolled ∧
      t' = t.replace (r.enrolled request) := by
  simp only [enrollDevice, bind_eq_ok_iff] at h
  obtain ⟨joined, joined_eq, h⟩ := h
  split at h
  · cases h
  next r o found =>
  simp only [bind_eq_ok_iff, DeviceRow.enrollment_eq_ok_iff] at h
  obtain ⟨_, ⟨status, code, rfl⟩, h⟩ := h
  split at h
  · cases h
  next waiting =>
    cases h
    have waits : status = .waiting := by simpa [DeviceRow.toEnrollment] using waiting
    obtain ⟨there, mem, owner, owned⟩ := mem_joined joined_eq (List.mem_of_find?_eq_some found)
    obtain ⟨rows, devices⟩ := Option.isSome_iff_exists.1 there
    have key := List.find?_some found
    rw [devices] at mem
    exact ⟨rows, devices, r, mem, o, owner, owned, DeviceRow.isOf_iff.1 key, waits ▸ code, rfl,
      rfl⟩

theorem updateDeviceStatus_ok {update : StatusUpdate}
    (h : t.updateDeviceStatus id update = .ok t') :
    ∃ rows, t.devices = some rows ∧ ∃ r ∈ rows, r.id = id ∧
      r.statusCode = update.expected.code ∧ t' = t.replace (r.updated update) := by
  simp only [updateDeviceStatus, bind_eq_ok_iff, deviceRows_eq_ok_iff] at h
  obtain ⟨rows, devices, h⟩ := h
  split at h
  · cases h
  next r found =>
  split at h
  · cases h
  next expected =>
    cases h
    obtain ⟨mem, same_id⟩ := mem_of_find?_beq found
    exact ⟨rows, devices, r, mem, same_id, by simpa using expected, rfl⟩

theorem updateDeviceData_ok {deviceData : String}
    (h : t.updateDeviceData id deviceData = .ok t') :
    ∃ rows, t.devices = some rows ∧ ∃ r ∈ rows, r.id = id ∧
      t' = t.replace { r with deviceData } := by
  simp only [updateDeviceData, bind_eq_ok_iff, deviceRows_eq_ok_iff] at h
  obtain ⟨rows, devices, h⟩ := h
  split at h
  · cases h
  next r found =>
    cases h
    obtain ⟨mem, same_id⟩ := mem_of_find?_beq found
    exact ⟨rows, devices, r, mem, same_id, rfl⟩

end Database

theorem MemoryStore.enrollment_eq_ok_iff {t : MemoryStore} {r : DeviceRecord} {e : Enrollment} :
    t.enrollment r = .ok e ↔
      ∃ o, t.findOrganization r.organizationId = some o ∧ e = r.row.toEnrollment o r.status := by
  unfold MemoryStore.enrollment
  split
  · next missing => simp [missing]
  · next o found =>
    constructor
    · intro h
      cases h
      exact ⟨o, found, rfl⟩
    · rintro ⟨other, other_found, rfl⟩
      rw [found] at other_found
      cases other_found
      rfl

theorem MemoryStore.deviceById_eq_ok_iff {t : MemoryStore} {id : String} {r : DeviceRecord} :
    t.deviceById id = .ok r ↔ t.findDevice id = some r := by
  unfold MemoryStore.deviceById
  split
  · next found => simp [found]
  · next missing => simp [missing]

theorem MemoryStore.deviceByKey_eq_ok_iff {t : MemoryStore} {key : String} {r : DeviceRecord} :
    t.deviceByKey key = .ok r ↔ t.findDeviceKeyed key = some r := by
  unfold MemoryStore.deviceByKey
  split
  · next found => simp [found]
  · next missing => simp [missing]

/-! ### What a successful write does -/

namespace Store

variable {s s' : Store} {id : String}

theorem rows_database {t : Database} {rows : List DeviceRow} (h : t.devices = some rows) :
    (Store.database t).rows = rows := by
  rw [Store.rows, h]
  rfl

theorem organizations_database {t : Database} {organizations : List Organization}
    (h : t.organizations = some organizations) :
    (Store.database t).organizations = organizations := by
  rw [Store.organizations, h]
  rfl

theorem becomes_replace_memory (t : MemoryStore) (r : DeviceRecord) :
    Becomes (.memory t) (.memory (t.replace r)) (Store.memory t).organizations
      (DeviceRow.replaceIn (Store.memory t).rows r.row) :=
  ⟨rfl, fun _ => trivial, rfl, map_row_replace _ _⟩

theorem becomes_replace_database {t : Database} {rows : List DeviceRow}
    (h : t.devices = some rows) (r : DeviceRow) :
    Becomes (.database t) (.database (t.replace r)) (Store.database t).organizations
      (DeviceRow.replaceIn (Store.database t).rows r) := by
  have replaced := Database.devices_replace h r
  refine ⟨rfl, fun tables => ⟨?_, ?_⟩, ?_, ?_⟩
  · rw [Database.organizations_replace]
    exact tables.1
  · rw [replaced]
    rfl
  · rw [Store.organizations, Database.organizations_replace]
    rfl
  · rw [rows_database replaced, rows_database h]

theorem createOrganization_ok {answer : String} {new : NewOrganization}
    (h : s.createOrganization id new = .ok (answer, s')) :
    answer = id ∧ isBlank new.name = false ∧ (∀ o ∈ s.organizations, o.name ≠ new.name) ∧
      s.Becomes s' (s.organizations ++
        [⟨id, new.name, new.country, new.rootKey, new.rootCert⟩]) s.rows := by
  cases s with
  | memory t =>
    obtain ⟨t', made, rfl⟩ := answer_eq_ok_iff.1 h
    simp only [MemoryStore.createOrganization, bind_eq_ok_iff] at made
    obtain ⟨_, named, made⟩ := made
    split at made
    · cases made
    next free =>
      cases made
      refine ⟨rfl, requireField_eq_ok_iff.1 named, ?_, rfl, fun _ => trivial, rfl, rfl⟩
      intro o ho same
      exact free (List.find?_isSome.2 ⟨o, ho, beq_iff_eq.2 same⟩)
  | database t =>
    obtain ⟨t', made, rfl⟩ := answer_eq_ok_iff.1 h
    obtain ⟨organizations, there, rfl, named, free, rfl⟩ := Database.createOrganization_ok made
    rw [organizations_database there]
    exact ⟨rfl, named, free, rfl, fun tables => ⟨rfl, tables.2⟩, rfl, rfl⟩

theorem createDevice_ok {answer : String} {new : NewDevice}
    (h : s.createDevice id new = .ok (answer, s')) :
    answer = id ∧ new.check = .ok () ∧ (∃ o ∈ s.organizations, o.id = new.organizationId) ∧
      (∀ r ∈ s.rows, r.id ≠ id ∧
        s.kind.keyOf r ≠ s.kind.lookupKey new.brand new.model new.serialNumber) ∧
      s.Becomes s' s.organizations (s.rows ++ [new.row id]) := by
  cases s with
  | memory t =>
    obtain ⟨t', made, rfl⟩ := answer_eq_ok_iff.1 h
    simp only [MemoryStore.createDevice, bind_eq_ok_iff] at made
    obtain ⟨_, checked, made⟩ := made
    split at made
    · cases made
    next owned =>
    split at made
    · cases made
    next key_free =>
    split at made
    · cases made
    next id_free =>
      cases made
      refine ⟨rfl, checked, ?_, ?_, rfl, fun _ => trivial, rfl, ?_⟩
      · cases owner : t.findOrganization new.organizationId with
        | none => exact absurd (by rw [owner]; rfl) owned
        | some o => exact ⟨o, mem_of_find?_beq owner⟩
      · intro r hr
        obtain ⟨record, hm, rfl⟩ := List.mem_map.1 hr
        constructor
        · intro same
          exact id_free (List.find?_isSome.2 ⟨record, hm, beq_iff_eq.2 same⟩)
        · intro same
          exact key_free (List.find?_isSome.2
            ⟨record, hm, beq_iff_eq.2 (List.cons.inj same).1⟩)
      · exact List.map_append
  | database t =>
    obtain ⟨t', made, rfl⟩ := answer_eq_ok_iff.1 h
    obtain ⟨organizations, rows, owners, devices, rfl, checked, owned, free, rfl⟩ :=
      Database.createDevice_ok made
    have inserted := Database.devices_insert devices (new.row answer)
    rw [rows_database devices, organizations_database owners]
    refine ⟨rfl, checked, owned, free, rfl, fun tables => ⟨tables.1, ?_⟩, ?_, ?_⟩
    · rw [inserted]
      rfl
    · exact organizations_database owners
    · exact rows_database inserted

theorem enrollDevice_ok {request : EnrollmentRequest} {e : Enrollment}
    (h : s.enrollDevice request = .ok (e, s')) :
    ∃ r ∈ s.rows, ∃ o ∈ s.organizations, o.id = r.organizationId ∧
      s.kind.keyOf r = s.kind.lookupKey request.brand request.model request.serialNumber ∧
      r.statusCode = Status.waiting.code ∧
      e = (r.enrolled request).toEnrollment o .enrolled ∧
      s.Becomes s' s.organizations (DeviceRow.replaceIn s.rows (r.enrolled request)) := by
  cases s with
  | memory t =>
    obtain ⟨t', made, rfl⟩ := answer_eq_ok_iff.1 h
    simp only [MemoryStore.enrollDevice, bind_eq_ok_iff, MemoryStore.deviceByKey_eq_ok_iff] at made
    obtain ⟨record, found, made⟩ := made
    split at made
    · cases made
    next waiting =>
    simp only [bind_eq_ok_iff, MemoryStore.enrollment_eq_ok_iff] at made
    obtain ⟨_, ⟨o, owner, rfl⟩, made⟩ := made
    cases made
    have waits : record.status = .waiting := by simpa using waiting
    obtain ⟨mem, key⟩ := mem_of_find?_beq found
    obtain ⟨owner_mem, owned⟩ := mem_of_find?_beq owner
    exact ⟨record.row, List.mem_map_of_mem mem, o, owner_mem, owned, congrArg (fun k => [k]) key,
      congrArg Status.code waits, rfl, becomes_replace_memory t _⟩
  | database t =>
    obtain ⟨t', made, rfl⟩ := answer_eq_ok_iff.1 h
    obtain ⟨rows, devices, r, mem, o, owner, owned, key, waits, shown, rfl⟩ :=
      Database.enrollDevice_ok made
    exact ⟨r, (rows_database devices).symm ▸ mem, o, owner, owned, key, waits, shown,
      becomes_replace_database devices _⟩

theorem updateDeviceStatus_ok {update : StatusUpdate}
    (h : s.updateDeviceStatus id update = .ok ((), s')) :
    ∃ r ∈ s.rows, r.id = id ∧ r.statusCode = update.expected.code ∧
      s.Becomes s' s.organizations (DeviceRow.replaceIn s.rows (r.updated update)) := by
  cases s with
  | memory t =>
    obtain ⟨t', made, rfl⟩ := done_eq_ok_iff.1 h
    simp only [MemoryStore.updateDeviceStatus, bind_eq_ok_iff,
      MemoryStore.deviceById_eq_ok_iff] at made
    obtain ⟨record, found, made⟩ := made
    split at made
    · cases made
    next expected =>
    cases made
    have seen : record.status = update.expected := by simpa using expected
    obtain ⟨mem, same_id⟩ := mem_of_find?_beq found
    exact ⟨record.row, List.mem_map_of_mem mem, same_id, congrArg Status.code seen,
      becomes_replace_memory t _⟩
  | database t =>
    obtain ⟨t', made, rfl⟩ := done_eq_ok_iff.1 h
    obtain ⟨rows, devices, r, mem, same_id, seen, rfl⟩ := Database.updateDeviceStatus_ok made
    exact ⟨r, (rows_database devices).symm ▸ mem, same_id, seen, becomes_replace_database devices _⟩

theorem updateDeviceData_ok {deviceData : String}
    (h : s.updateDeviceData id deviceData = .ok ((), s')) :
    ∃ r ∈ s.rows, r.id = id ∧
      s.Becomes s' s.organizations (DeviceRow.replaceIn s.rows { r with deviceData }) := by
  cases s with
  | memory t =>
    obtain ⟨t', made, rfl⟩ := done_eq_ok_iff.1 h
    simp only [MemoryStore.updateDeviceData, bind_eq_ok_iff,
      MemoryStore.deviceById_eq_ok_iff] at made
    obtain ⟨record, found, made⟩ := made
    cases made
    obtain ⟨mem, same_id⟩ := mem_of_find?_beq found
    exact ⟨record.row, List.mem_map_of_mem mem, same_id, becomes_replace_memory t _⟩
  | database t =>
    obtain ⟨t', made, rfl⟩ := done_eq_ok_iff.1 h
    obtain ⟨rows, devices, r, mem, same_id, rfl⟩ := Database.updateDeviceData_ok made
    exact ⟨r, (rows_database devices).symm ▸ mem, same_id, becomes_replace_database devices _⟩

end Store

end FleetIdentity
