import FleetIdentity.Proofs.Store.Reads
import FleetIdentity.Proofs.Store.StoredRows

/-!
# Rows whose status cannot be read

A database may hold a device whose status is a number that stands for none. Such a row still takes
its id and its name: no device can be registered in its place. Every read that would show it fails
and names it, also the list of all devices of its organization. A write that compares the status
never hits it, as the numbers that are compared stand for statuses; only the write of data does not
look at the status, and is excluded here where the id is that of the row.

A row is meant with all its columns, also those that nothing reads. Ids and names are assumed to be
unique, as the tables demand it. Nothing is assumed of the other rows, which may be unreadable as
well, and for the writes and the registration nothing of the organization of the row, which may be
missing.
-/

namespace FleetIdentity

namespace DeviceRow

/-- The status of the row is a number that stands for none. -/
def IsUnreadable (r : DeviceRow) : Prop :=
  ∀ status, r.statusCode ≠ Status.code status

/-- The failure to read the row. -/
def unreadable (r : DeviceRow) : IdentityError :=
  .invalidState s!"device `{r.id}` has unknown status code {r.statusCode}"

theorem enrollment_eq_error_iff {r : DeviceRow} {o : Organization} {e : IdentityError} :
    r.enrollment o = .error e ↔ r.IsUnreadable ∧ e = r.unreadable := by
  unfold enrollment IsUnreadable
  simp only [ne_eq, ← Status.ofCode?_eq_some_iff]
  cases Status.ofCode? r.statusCode with
  | none => simp [unreadable, eq_comm]
  | some status => simp

end DeviceRow

namespace Store

variable {s s' : Store}

/-! ### No write hits the row -/

/-- A database with both tables, in which no two devices have one id or one name, and whose row has
a status that cannot be read. -/
structure Quarantines (s : Store) (r : StoredRow) : Prop where
  kind_eq : s.kind = .database
  hasTables : s.HasTables
  ids : (s.rows.map (·.id)).Nodup
  keys : (s.rows.map s.kind.keyOf).Nodup
  mem : r ∈ s.storedRows
  isUnreadable : r.row.IsUnreadable

variable {r : StoredRow}

theorem Quarantines.mem_rows (h : s.Quarantines r) : r.row ∈ s.rows :=
  row_mem_rows h.mem

/-- A row with a status that can be read is another one. -/
theorem Quarantines.id_ne (h : s.Quarantines r) {other : DeviceRow} (mem : other ∈ s.rows)
    {status : Status} (code : other.statusCode = Status.code status) : other.id ≠ r.row.id := by
  intro same
  obtain rfl := DeviceRow.eq_of_id h.ids mem h.mem_rows same
  exact h.isUnreadable status code

theorem Quarantines.replace (h : s.Quarantines r) {old new : DeviceRow} (mem : old ∈ s.rows)
    (other : old.id ≠ r.row.id)
    (becomes : s.Becomes s' s.organizations (DeviceRow.replaceIn s.rows new))
    (keeps : s.KeepsOthers s' old.id)
    (id_eq : new.id = old.id) (key_eq : s.kind.keyOf new = s.kind.keyOf old) :
    s'.Quarantines r := by
  obtain ⟨kind_eq, hasTables, _, rows_eq⟩ := becomes
  refine ⟨kind_eq.trans h.kind_eq, hasTables h.hasTables, ?_, ?_, keeps r h.mem other.symm,
    h.isUnreadable⟩
  · rw [rows_eq, DeviceRow.map_replaceIn h.ids mem id_eq id_eq]
    exact h.ids
  · rw [rows_eq, kind_eq, DeviceRow.map_replaceIn h.ids mem id_eq key_eq]
    exact h.keys

theorem Quarantines.createOrganization (h : s.Quarantines r) {id answer : String}
    {new : NewOrganization} (made : s.createOrganization id new = .ok (answer, s')) :
    s'.Quarantines r := by
  obtain ⟨_, _, _, kind_eq, hasTables, _, rows_eq⟩ := createOrganization_ok made
  refine ⟨kind_eq.trans h.kind_eq, hasTables h.hasTables, ?_, ?_, ?_, h.isUnreadable⟩
  · rw [rows_eq]
    exact h.ids
  · rw [rows_eq, kind_eq]
    exact h.keys
  · rw [storedRows_createOrganization made]
    exact h.mem

theorem Quarantines.createDevice (h : s.Quarantines r) {id answer : String} {new : NewDevice}
    (made : s.createDevice id new = .ok (answer, s')) : s'.Quarantines r := by
  obtain ⟨_, _, _, free, kind_eq, hasTables, _, rows_eq⟩ := createDevice_ok made
  refine ⟨kind_eq.trans h.kind_eq, hasTables h.hasTables, ?_, ?_,
    storedRows_createDevice made h.mem, h.isUnreadable⟩
  · rw [rows_eq]
    exact DeviceRow.nodup_map_concat h.ids fun x hx => (free x hx).1
  · rw [rows_eq, kind_eq]
    exact DeviceRow.nodup_map_concat h.keys fun x hx => (free x hx).2

theorem Quarantines.enrollDevice (h : s.Quarantines r) {request : EnrollmentRequest}
    {e : Enrollment} (made : s.enrollDevice request = .ok (e, s')) : s'.Quarantines r := by
  have keeps := keepsOthers_enrollDevice made
  obtain ⟨old, mem, _, _, _, _, waits, rfl, becomes⟩ := enrollDevice_ok made
  exact h.replace mem (h.id_ne mem waits) becomes keeps rfl rfl

theorem Quarantines.updateDeviceStatus (h : s.Quarantines r) {id : String} {update : StatusUpdate}
    (made : s.updateDeviceStatus id update = .ok ((), s')) : s'.Quarantines r := by
  have keeps := keepsOthers_updateDeviceStatus made
  obtain ⟨old, mem, rfl, expected, becomes⟩ := updateDeviceStatus_ok made
  exact h.replace mem (h.id_ne mem expected) becomes keeps rfl rfl

theorem Quarantines.updateDeviceData (h : s.Quarantines r) {id deviceData : String}
    (other : id ≠ r.row.id) (made : s.updateDeviceData id deviceData = .ok ((), s')) :
    s'.Quarantines r := by
  have keeps := keepsOthers_updateDeviceData made
  obtain ⟨old, mem, rfl, becomes⟩ := updateDeviceData_ok made
  exact h.replace mem other becomes keeps rfl rfl

/-- The organization of the row is there. -/
def HasOwner (s : Store) (r : DeviceRow) : Prop :=
  ∃ o ∈ s.organizations, o.id = r.organizationId

theorem exists_find?_organization {id : String} (there : ∃ o ∈ s.organizations, o.id = id) :
    ∃ o, s.organizations.find? (·.id == id) = some o := by
  obtain ⟨o, mem, same⟩ := there
  exact Option.isSome_iff_exists.1 (List.find?_isSome.2 ⟨o, mem, beq_iff_eq.2 same⟩)

/-- A search in the joined rows that looks for the row ends there. -/
theorem Quarantines.read_joined {t : Database} (h : Quarantines (.database t) r)
    (owned : HasOwner (.database t) r.row) (failure : IdentityError) {p : DeviceRow → Bool}
    (hit : p r.row = true) (unique : ∀ x ∈ (Store.database t).rows, p x = true → x = r.row) :
    (t.joined >>= fun joined => match joined.find? (fun x => p x.1) with
      | some (r, o) => r.enrollment o
      | none => throw failure) = .error r.row.unreadable := by
  obtain ⟨o, owner⟩ := exists_find?_organization owned
  rw [joined_eq h.hasTables]
  simp only [bind, Except.bind]
  rw [List.find?_filterMap, find?_eq_some_of_unique h.mem_rows]
  · simp only [Option.bind_some, owner, Option.map_some]
    exact DeviceRow.enrollment_eq_error_iff.2 ⟨h.isUnreadable, rfl⟩
  · rw [owner]
    exact hit
  · intro x mem shown
    obtain ⟨pair, joined, pair_hit⟩ := (Option.any_eq_true _ _).1 shown
    obtain ⟨_, _, rfl⟩ := Option.map_eq_some_iff.1 joined
    exact unique x mem pair_hit

theorem Quarantines.eq_of_id (h : s.Quarantines r) :
    ∀ x ∈ s.rows, (x.id == r.row.id) = true → x = r.row :=
  fun _ mem same => DeviceRow.eq_of_id h.ids mem h.mem_rows (beq_iff_eq.1 same)

theorem Quarantines.eq_of_isOf (h : s.Quarantines r) : ∀ x ∈ s.rows,
    x.isOf r.row.device.brand r.row.device.model r.row.device.serialNumber = true → x = r.row := by
  intro x mem same
  have keys := h.keys
  rw [h.kind_eq] at keys
  exact List.inj_on_of_nodup_map keys mem h.mem_rows (DeviceRow.isOf_iff.1 same)

theorem Quarantines.getDeviceById (h : s.Quarantines r) (owned : s.HasOwner r.row) :
    s.getDeviceById r.row.id = .error r.row.unreadable := by
  cases s with
  | memory t => cases h.kind_eq
  | database t =>
    exact h.read_joined owned (.deviceNotFound r.row.id) (p := (·.id == r.row.id))
      (beq_iff_eq.2 rfl) h.eq_of_id

theorem Quarantines.getDevice (h : s.Quarantines r) (owned : s.HasOwner r.row) :
    s.getDevice r.row.device.brand r.row.device.model r.row.device.serialNumber =
      .error r.row.unreadable := by
  cases s with
  | memory t => cases h.kind_eq
  | database t => exact h.read_joined owned _ (DeviceRow.isOf_iff.2 rfl) h.eq_of_isOf

theorem mapM_eq_error {α β ε : Type} {f : α → Except ε β} {l : List α} {a : α} (mem : a ∈ l)
    (fails : ∃ e, f a = .error e) : ∃ b ∈ l, ∃ e, f b = .error e ∧ l.mapM f = .error e := by
  induction l with
  | nil => cases mem
  | cons b l ih =>
    cases first : f b with
    | error e => exact ⟨b, List.mem_cons_self, e, first, by rw [List.mapM_cons, first]; rfl⟩
    | ok made =>
      rcases List.mem_cons.1 mem with rfl | mem
      · obtain ⟨e, failed⟩ := fails
        cases first.symm.trans failed
      · obtain ⟨c, c_mem, e, failed, rest⟩ := ih mem
        refine ⟨c, List.mem_cons_of_mem b c_mem, e, failed, ?_⟩
        rw [List.mapM_cons, first, rest]
        rfl

/-- The list of the devices of the organization fails at a row that cannot be read, this one or
another one. -/
theorem Quarantines.listDevices (h : s.Quarantines r) (owned : s.HasOwner r.row) :
    ∃ other ∈ s.rows, other.organizationId = r.row.organizationId ∧ other.IsUnreadable ∧
      s.listDevices r.row.organizationId = .error other.unreadable := by
  cases s with
  | memory t => cases h.kind_eq
  | database t =>
    obtain ⟨o, owner⟩ := exists_find?_organization owned
    rw [Store.listDevices, Database.listDevices, joined_eq h.hasTables]
    simp only [bind, Except.bind]
    rw [filter_joined]
    have listed : (r.row, o) ∈ (((Store.database t).rows.filter
        (·.organizationId == r.row.organizationId)).filterMap fun x =>
          ((Store.database t).organizations.find? (·.id == x.organizationId)).map
            fun o => (x, o)).mergeSort (fun a b => a.1.precedes b.1) := by
      rw [List.mem_mergeSort]
      refine List.mem_filterMap.2 ⟨r.row, List.mem_filter.2 ⟨h.mem_rows, beq_iff_eq.2 rfl⟩, ?_⟩
      rw [owner]
      rfl
    have unread : r.row.enrollment o = .error r.row.unreadable :=
      DeviceRow.enrollment_eq_error_iff.2 ⟨h.isUnreadable, rfl⟩
    -- The rows are read in their order, so that an unreadable one in front of this one is named.
    obtain ⟨⟨other, owner'⟩, other_listed, e, failed, all⟩ :=
      mapM_eq_error (f := fun x : DeviceRow × Organization => x.1.enrollment x.2) listed
        ⟨_, unread⟩
    obtain ⟨isUnreadable, rfl⟩ := DeviceRow.enrollment_eq_error_iff.1 failed
    obtain ⟨x, x_mem, joined⟩ := List.mem_filterMap.1 (List.mem_mergeSort.1 other_listed)
    obtain ⟨_, _, same⟩ := Option.map_eq_some_iff.1 joined
    cases same
    obtain ⟨mem, owned_here⟩ := List.mem_filter.1 x_mem
    exact ⟨other, mem, beq_iff_eq.1 owned_here, isUnreadable, all⟩

end Store

end FleetIdentity
