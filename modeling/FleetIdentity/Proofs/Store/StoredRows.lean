import FleetIdentity.Proofs.Store.Rows

/-!
# Rows with all their columns

Every row of a database also keeps when it was stored and when it was last changed, and what is read
of the row leaves these columns out. A write to one device leaves the others stored as they were, in
these columns too.
-/

namespace FleetIdentity

namespace Store

variable {s s' : Store}

/-- The devices with other ids are stored as they were, in every column. -/
def KeepsOthers (s s' : Store) (id : String) : Prop :=
  ∀ r ∈ s.storedRows, r.row.id ≠ id → r ∈ s'.storedRows

theorem KeepsOthers.refl (s : Store) (id : String) : s.KeepsOthers s id :=
  fun _ mem _ => mem

theorem KeepsOthers.trans {t : Store} {id : String} (first : s.KeepsOthers t id)
    (second : t.KeepsOthers s' id) : s.KeepsOthers s' id :=
  fun r mem other => second r (first r mem other) other

theorem keepsOthers_memory (t : MemoryStore) (s' : Store) (id : String) :
    KeepsOthers (.memory t) s' id := by
  intro r mem
  cases mem

theorem keepsOthers_replace (t : Database) (r : DeviceRow) :
    KeepsOthers (.database t) (.database (t.replace r)) r.id := by
  intro x mem other
  exact Database.mem_stored_change mem (·.id == r.id) (fun _ => r) (beq_false_of_ne other)

theorem row_mem_rows {r : StoredRow} (mem : r ∈ s.storedRows) : r.row ∈ s.rows := by
  cases s with
  | memory t => cases mem
  | database t =>
    obtain ⟨stored, there, mem⟩ := mem_getD_nil_iff.1 mem
    rw [rows, Database.devices, there]
    exact List.mem_map_of_mem mem

theorem storedRows_createOrganization {id answer : String} {new : NewOrganization}
    (made : s.createOrganization id new = .ok (answer, s')) : s'.storedRows = s.storedRows := by
  cases s with
  | memory t =>
    obtain ⟨_, _, rfl⟩ := answer_eq_ok_iff.1 made
    rfl
  | database t =>
    obtain ⟨_, stored, rfl⟩ := answer_eq_ok_iff.1 made
    obtain ⟨_, _, _, _, _, rfl⟩ := Database.createOrganization_ok stored
    rfl

theorem storedRows_createDevice {id answer : String} {new : NewDevice}
    (made : s.createDevice id new = .ok (answer, s')) {r : StoredRow} (mem : r ∈ s.storedRows) :
    r ∈ s'.storedRows := by
  cases s with
  | memory t => cases mem
  | database t =>
    obtain ⟨_, stored, rfl⟩ := answer_eq_ok_iff.1 made
    obtain ⟨_, _, _, _, _, _, _, _, rfl⟩ := Database.createDevice_ok stored
    exact Database.mem_stored_insert mem (new.row id)

theorem keepsOthers_enrollDevice {request : EnrollmentRequest} {e : Enrollment}
    (made : s.enrollDevice request = .ok (e, s')) : s.KeepsOthers s' e.id := by
  cases s with
  | memory t => exact keepsOthers_memory t s' e.id
  | database t =>
    obtain ⟨_, stored, rfl⟩ := answer_eq_ok_iff.1 made
    obtain ⟨_, _, r, _, _, _, _, _, _, rfl, rfl⟩ := Database.enrollDevice_ok stored
    exact keepsOthers_replace t (r.enrolled request)

theorem keepsOthers_updateDeviceStatus {id : String} {update : StatusUpdate}
    (made : s.updateDeviceStatus id update = .ok ((), s')) : s.KeepsOthers s' id := by
  cases s with
  | memory t => exact keepsOthers_memory t s' id
  | database t =>
    obtain ⟨_, stored, rfl⟩ := done_eq_ok_iff.1 made
    obtain ⟨_, _, r, _, rfl, _, rfl⟩ := Database.updateDeviceStatus_ok stored
    exact keepsOthers_replace t (r.updated update)

theorem keepsOthers_updateDeviceData {id deviceData : String}
    (made : s.updateDeviceData id deviceData = .ok ((), s')) : s.KeepsOthers s' id := by
  cases s with
  | memory t => exact keepsOthers_memory t s' id
  | database t =>
    obtain ⟨_, stored, rfl⟩ := done_eq_ok_iff.1 made
    obtain ⟨_, _, r, _, rfl, rfl⟩ := Database.updateDeviceData_ok stored
    exact keepsOthers_replace t { r with deviceData }

end Store

end FleetIdentity
