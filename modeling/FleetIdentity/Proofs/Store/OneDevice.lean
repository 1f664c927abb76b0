import FleetIdentity.Proofs.Store.CallSteps
import FleetIdentity.Proofs.Store.Writes

/-!
# A change of one device

A row in the place of another, seen by a reader: the store shows one enrollment in the place of the
one with its id, and everything else as before. Changes of one device after each other are one
change, to what the last of them left.
-/

namespace FleetIdentity

namespace Enrollment

/-- The enrollments with one in the place of those with its id. -/
def replaceIn (entries : List Enrollment) (e : Enrollment) : List Enrollment :=
  entries.map fun other => if other.id = e.id then e else other

/-- The enrollment of a device that got a store and a key. -/
def enrolled (e : Enrollment) (request : EnrollmentRequest) : Enrollment :=
  { e with
    device := { e.device with storeId := request.storeId, deviceKey := request.deviceKey }
    status := .enrolled }

/-- The enrollment after an update by an administrator: a new status, and new data if they are
given. -/
def administered (e : Enrollment) (target : Status) (deviceData : Option String) : Enrollment :=
  { e with status := target, deviceData := deviceData.getD e.deviceData }

theorem replaceIn_replaceIn (entries : List Enrollment) {a b : Enrollment} (same : a.id = b.id) :
    replaceIn (replaceIn entries a) b = replaceIn entries b := by
  rw [replaceIn, replaceIn, replaceIn, List.map_map]
  apply List.map_congr_left
  intro other _
  by_cases hit : other.id = b.id
  · simp [same, hit]
  · simp [same, hit]

end Enrollment

namespace Store

/-- The new store shows an enrollment in the place of the one with its id, and is otherwise as it
was. -/
structure ChangesOnly (s s' : Store) (e : Enrollment) : Prop where
  kind_eq : s'.kind = s.kind
  organizations_eq : s'.organizations = s.organizations
  enrollments_eq : s'.enrollments = Enrollment.replaceIn s.enrollments e
  read : ∀ id, s'.getDeviceById id = if id = e.id then .ok e else s.getDeviceById id

variable {s t s' : Store} {r old : DeviceRow} {e e' : Enrollment}

/-! ### What the rows of a change show -/

theorem enrollment?_enrolled (shown : s.enrollment? r = some e) (request : EnrollmentRequest) :
    s.enrollment? (r.enrolled request) = some (e.enrolled request) := by
  obtain ⟨o, _, owner, _, rfl⟩ := enrollment?_eq_some_iff.1 shown
  exact enrollment?_eq_some_iff.2 ⟨o, .enrolled, owner, rfl, rfl⟩

theorem enrollment?_administered (shown : s.enrollment? r = some e) (target : Status)
    (deviceData : Option String) :
    s.enrollment? (r.administered target deviceData) =
      some (e.administered target deviceData) := by
  obtain ⟨o, _, owner, _, rfl⟩ := enrollment?_eq_some_iff.1 shown
  exact enrollment?_eq_some_iff.2 ⟨o, target, owner, rfl, rfl⟩

theorem Becomes.enrollment?_eq {rows : List DeviceRow}
    (becomes : s.Becomes s' s.organizations rows) (r : DeviceRow) :
    s'.enrollment? r = s.enrollment? r := by
  rw [enrollment?, enrollment?, becomes.organizations_eq]

theorem Sound.enrollments_replaceIn (h : s.Sound)
    (becomes : s.Becomes s' s.organizations (DeviceRow.replaceIn s.rows r))
    (shown : s.enrollment? r = some e) :
    s'.enrollments = Enrollment.replaceIn s.enrollments e := by
  have id_eq : e.id = r.id := (eq_of_enrollment? shown).1
  rw [enrollments, becomes.rows_eq, DeviceRow.replaceIn, List.filterMap_map, enrollments,
    Enrollment.replaceIn, List.map_filterMap]
  apply List.filterMap_congr
  intro x mem
  obtain ⟨other, found⟩ := h.enrollment? mem
  have other_id : other.id = x.id := (eq_of_enrollment? found).1
  rw [Function.comp_apply, becomes.enrollment?_eq, found, Option.map_some, other_id, id_eq]
  by_cases hit : x.id = r.id
  · rw [if_pos hit, if_pos hit, shown]
  · rw [if_neg hit, if_neg hit, found]

theorem Sound.getDeviceById_replaceIn (h : s.Sound) (h' : s'.Sound) (mem : old ∈ s.rows)
    (id_eq : r.id = old.id)
    (becomes : s.Becomes s' s.organizations (DeviceRow.replaceIn s.rows r))
    (shown : s.enrollment? r = some e) (id : String) :
    s'.getDeviceById id = if id = e.id then .ok e else s.getDeviceById id := by
  have read {x : Store} (sound : x.Sound) : x.getDeviceById id =
      foundOr (.deviceNotFound id) ((x.row? id).bind x.enrollment?) := getDeviceById_eq sound id
  have same : s'.enrollment? = s.enrollment? := funext becomes.enrollment?_eq
  have e_id : e.id = r.id := (eq_of_enrollment? shown).1
  rw [read h, read h', row?_replaceIn mem id_eq becomes.rows_eq, same, e_id]
  by_cases hit : r.id = id
  · rw [if_pos hit, if_pos hit.symm, Option.bind_some, shown, foundOr]
  · rw [if_neg hit, if_neg fun there => hit there.symm]

/-! ### Changes of one device -/

/-- A row in the place of another with its id is a change of one device. -/
theorem Sound.changesOnly (h : s.Sound) (h' : s'.Sound) (mem : old ∈ s.rows)
    (id_eq : r.id = old.id)
    (becomes : s.Becomes s' s.organizations (DeviceRow.replaceIn s.rows r))
    (shown : s.enrollment? r = some e) : s.ChangesOnly s' e where
  kind_eq := becomes.kind_eq
  organizations_eq := becomes.organizations_eq
  enrollments_eq := h.enrollments_replaceIn becomes shown
  read := h.getDeviceById_replaceIn h' mem id_eq becomes shown

theorem Sound.changesOnly_self (h : s.Sound) (read : s.getDeviceById e.id = .ok e) :
    s.ChangesOnly s e := by
  obtain ⟨r, mem, shown⟩ := mem_enrollments.1 ((getDeviceById_eq_ok_iff h).1 read).1
  have unchanged : s.Becomes s s.organizations (DeviceRow.replaceIn s.rows r) := by
    rw [DeviceRow.replaceIn_self h.ids mem]
    exact .refl s
  exact h.changesOnly h mem rfl unchanged shown

theorem ChangesOnly.read_self (changes : s.ChangesOnly s' e) : s'.getDeviceById e.id = .ok e := by
  rw [changes.read, if_pos rfl]

/-- Of two changes of a device the later one counts. -/
theorem ChangesOnly.trans (first : s.ChangesOnly t e) (second : t.ChangesOnly s' e')
    (same : e.id = e'.id) : s.ChangesOnly s' e' where
  kind_eq := second.kind_eq.trans first.kind_eq
  organizations_eq := second.organizations_eq.trans first.organizations_eq
  enrollments_eq := by
    rw [second.enrollments_eq, first.enrollments_eq, Enrollment.replaceIn_replaceIn _ same]
  read := by
    intro id
    rw [second.read, first.read, same]
    by_cases hit : id = e'.id
    · rw [if_pos hit, if_pos hit]
    · rw [if_neg hit, if_neg hit, if_neg hit]

/-- The store enrolls a device that waits, and changes nothing else. -/
theorem Sound.enrollDevice_changesOnly (h : s.Sound) {request : EnrollmentRequest}
    (found : s.getDevice request.brand request.model request.serialNumber = .ok e)
    (waiting : e.status = .waiting) :
    ∃ s', s.enrollDevice request = .ok (e.enrolled request, s') ∧
      s.ChangesOnly s' (e.enrolled request) := by
  obtain ⟨answer, s', made, id_eq, _, _, read⟩ := enrollDevice_of_waiting h found waiting
  obtain ⟨r, mem, o, _, _, _, _, answer_eq, becomes⟩ := enrollDevice_ok made
  obtain ⟨row, row_mem, shown⟩ := mem_enrollments.1 ((getDevice_eq_ok_iff h).1 found).1
  have same : row = r := by
    have answer_id : answer.id = r.id := congrArg Enrollment.id answer_eq
    have row_id : e.id = row.id := (eq_of_enrollment? shown).1
    exact DeviceRow.eq_of_id h.ids row_mem mem (row_id.symm.trans (id_eq.symm.trans answer_id))
  subst same
  have row_id : (row.enrolled request).id = row.id := rfl
  have changes := h.changesOnly (h.write (.enrollDevice made)) mem row_id becomes
    (enrollment?_enrolled shown request)
  -- The answer is put together by the store; what is read afterwards says that it is the row.
  have shows : s'.getDeviceById e.id = .ok (e.enrolled request) := changes.read_self
  rw [read] at shows
  cases shows
  exact ⟨s', made, changes⟩

end Store

end FleetIdentity
