import FleetIdentity.Proofs.Store.ListingOrder
import FleetIdentity.Proofs.Store.StoredRows

/-!
# What a store holds of one organization

Two stores may agree on an organization and its devices, whatever else they hold. They show these
devices alike then, but stores of different kinds may list them in different orders. A change that
both make to the same of these devices keeps them in agreement and touches no other organization.
-/

namespace FleetIdentity

namespace Store

variable {s t s' : Store} {organizationId : String} {r : DeviceRow}

/-- Both stores hold the same organization under an id, and the same devices of it. -/
structure SameTenant (organizationId : String) (s t : Store) : Prop where
  organization_eq : s.getOrganization organizationId = t.getOrganization organizationId
  rows_iff : ∀ r : DeviceRow, r.organizationId = organizationId → (r ∈ s.rows ↔ r ∈ t.rows)

/-- The new store has the same organizations, and the same devices of all of them but one, in a
database with all columns. -/
structure SameOthers (organizationId : String) (s s' : Store) : Prop where
  organizations_eq : s'.organizations = s.organizations
  rows_eq : s'.rows.filter (·.organizationId != organizationId) =
    s.rows.filter (·.organizationId != organizationId)
  stored : ∀ r ∈ s.storedRows, r.row.organizationId ≠ organizationId → r ∈ s'.storedRows

theorem SameOthers.refl (organizationId : String) (s : Store) : s.SameOthers organizationId s :=
  ⟨rfl, rfl, fun _ mem _ => mem⟩

/-- A row in the place of another of the same organization is no matter for the others. -/
theorem SameOthers.replace (h : s.Sound) (mem : r ∈ s.rows) {new : DeviceRow}
    (id_eq : new.id = r.id) (owner_eq : new.organizationId = r.organizationId)
    (becomes : s.Becomes s' s.organizations (DeviceRow.replaceIn s.rows new))
    (keeps : s.KeepsOthers s' r.id) : s.SameOthers r.organizationId s' := by
  have elsewhere : ∀ x ∈ s.storedRows, x.row.organizationId ≠ r.organizationId →
      x.row.id ≠ r.id := by
    intro x hx other same
    rw [DeviceRow.eq_of_id h.ids (row_mem_rows hx) mem same] at other
    exact other rfl
  refine ⟨becomes.organizations_eq, ?_, fun x hx other => keeps x hx (elsewhere x hx other)⟩
  rw [becomes.rows_eq, DeviceRow.replaceIn, List.filter_map]
  have kept : ∀ x ∈ s.rows.filter (·.organizationId != r.organizationId),
      (if x.id = new.id then new else x) = x := by
    intro x hx
    obtain ⟨x_mem, other⟩ := List.mem_filter.1 hx
    refine if_neg fun same => ?_
    rw [DeviceRow.eq_of_id h.ids x_mem mem (same.trans id_eq), bne_self_eq_false] at other
    cases other
  have selected : s.rows.filter ((·.organizationId != r.organizationId) ∘
      fun x => if x.id = new.id then new else x) =
        s.rows.filter (·.organizationId != r.organizationId) := by
    refine List.filter_congr fun x hx => ?_
    show ((if x.id = new.id then new else x).organizationId != r.organizationId) = _
    split
    · next same =>
      rw [DeviceRow.eq_of_id h.ids hx mem (same.trans id_eq), owner_eq]
    · rfl
  rw [selected, List.map_congr_left kept, List.map_id']

/-- No device of the organization overtakes another one of it. -/
def NoOvertaking (organizationId : String) (s : Store) : Prop :=
  ∀ a ∈ s.rows, ∀ b ∈ s.rows, a.organizationId = organizationId →
    b.organizationId = organizationId → ¬ a.device.Overtakes b.device

theorem NoOvertaking.inOrder (none : s.NoOvertaking organizationId) (h : s.Sound)
    {listed : List Enrollment} (read : s.listDevices organizationId = .ok listed) :
    InOrder listed := by
  obtain ⟨found, found_read, perm, _⟩ := listDevices_sorted h organizationId
  obtain rfl : found = listed := Except.ok.inj (found_read.symm.trans read)
  have owned : ∀ e ∈ found, ∃ r ∈ s.rows, r.organizationId = organizationId ∧
      e.device = r.device := by
    intro e mem
    rw [perm.mem_iff, filter_enrollments] at mem
    obtain ⟨r, mem, shown⟩ := List.mem_filterMap.1 mem
    obtain ⟨mem, owner⟩ := List.mem_filter.1 mem
    exact ⟨r, mem, beq_iff_eq.1 owner, (eq_of_enrollment? shown).2.1⟩
  refine (inOrder_iff h read).2 (.inr fun a ha b hb => ?_)
  obtain ⟨x, hx, owner, device_eq⟩ := owned a ha
  obtain ⟨y, hy, owner', device_eq'⟩ := owned b hb
  rw [device_eq, device_eq']
  exact none x hx y hy owner owner'

namespace SameTenant

theorem noOvertaking (same : s.SameTenant organizationId t) (none : s.NoOvertaking organizationId) :
    t.NoOvertaking organizationId :=
  fun a ha b hb owner owner' =>
    none a ((same.rows_iff a owner).2 ha) b ((same.rows_iff b owner').2 hb) owner owner'

theorem find?_eq (same : s.SameTenant organizationId t) (hs : s.Sound) (ht : t.Sound) :
    s.organizations.find? (·.id == organizationId) =
      t.organizations.find? (·.id == organizationId) := by
  have answers := same.organization_eq
  rw [getOrganization_eq hs.hasTables, getOrganization_eq ht.hasTables] at answers
  cases found : s.organizations.find? (·.id == organizationId) with
  | none =>
    cases found' : t.organizations.find? (·.id == organizationId) with
    | none => rfl
    | some o =>
      rw [found, found'] at answers
      cases answers
  | some o =>
    rw [found] at answers
    exact (foundOr_eq_ok_iff.1 answers.symm).symm

theorem enrollment?_eq (same : s.SameTenant organizationId t) (hs : s.Sound) (ht : t.Sound)
    (owned : r.organizationId = organizationId) : s.enrollment? r = t.enrollment? r := by
  rw [Store.enrollment?, Store.enrollment?, owned, same.find?_eq hs ht]

/-- The devices of the organization are shown alike, perhaps in another order. -/
theorem enrollments_perm (same : s.SameTenant organizationId t) (hs : s.Sound) (ht : t.Sound) :
    (s.enrollments.filter (·.organization.id == organizationId)).Perm
      (t.enrollments.filter (·.organization.id == organizationId)) := by
  have rows : (s.rows.filter (·.organizationId == organizationId)).Perm
      (t.rows.filter (·.organizationId == organizationId)) := by
    refine (List.perm_ext_iff_of_nodup (hs.ids.of_map _ |>.filter _)
      (ht.ids.of_map _ |>.filter _)).2 fun r => ?_
    rw [List.mem_filter, List.mem_filter]
    exact and_congr_left fun owned => same.rows_iff r (beq_iff_eq.1 owned)
  rw [filter_enrollments, filter_enrollments]
  refine (rows.filterMap s.enrollment?).trans (.of_eq (List.filterMap_congr fun r mem => ?_))
  exact same.enrollment?_eq hs ht (beq_iff_eq.1 (List.mem_filter.1 mem).2)

theorem listDevices_eq (same : s.SameTenant organizationId t) (hs : s.Sound) (ht : t.Sound)
    (kind_eq : s.kind = t.kind) : s.listDevices organizationId = t.listDevices organizationId := by
  obtain ⟨listed, read, perm, sorted⟩ := listDevices_sorted ht organizationId
  rw [read]
  exact hs.listDevices_eq_ok (perm.trans (same.enrollments_perm hs ht).symm) (kind_eq ▸ sorted)

/-- Where no device overtakes another one, the list is the same also between stores of different
kinds. -/
theorem listDevices_eq_of_noOvertaking (same : s.SameTenant organizationId t) (hs : s.Sound)
    (ht : t.Sound) (none : s.NoOvertaking organizationId) :
    s.listDevices organizationId = t.listDevices organizationId := by
  obtain ⟨listed, read, perm, _⟩ := listDevices_sorted hs organizationId
  obtain ⟨listed', read', perm', _⟩ := listDevices_sorted ht organizationId
  have alike := same.enrollments_perm hs ht
  have in_order := (none.inOrder hs read).imp listKey_le_iff_octetKey.2
  have in_order' := ((same.noOvertaking none).inOrder ht read').imp listKey_le_iff_octetKey.2
  cases kind : s.kind with
  | database =>
    rw [read']
    exact hs.listDevices_eq_ok (perm'.trans alike.symm) (kind ▸ in_order')
  | memory =>
    cases kind' : t.kind with
    | database =>
      rw [read]
      exact (ht.listDevices_eq_ok (perm.trans alike) (kind' ▸ in_order)).symm
    | memory => exact same.listDevices_eq hs ht (kind.trans kind'.symm)

/-- The stores still agree when the same row of both is replaced alike. -/
theorem replace {t' : Store} (same : s.SameTenant organizationId t) (hs : s.Sound) (ht : t.Sound)
    (mem : r ∈ s.rows) (mem' : r ∈ t.rows) {new : DeviceRow} (id_eq : new.id = r.id)
    (becomes : s.Becomes s' s.organizations (DeviceRow.replaceIn s.rows new))
    (becomes' : t.Becomes t' t.organizations (DeviceRow.replaceIn t.rows new)) :
    s'.SameTenant organizationId t' := by
  refine ⟨?_, fun x owned => ?_⟩
  · rw [getOrganization_eq (becomes.hasTables hs.hasTables),
      getOrganization_eq (becomes'.hasTables ht.hasTables), becomes.organizations_eq,
      becomes'.organizations_eq, same.find?_eq hs ht]
  rw [becomes.rows_eq, becomes'.rows_eq]
  constructor
  · intro hx
    rcases DeviceRow.mem_replaceIn hx with rfl | ⟨hx, other⟩
    · exact DeviceRow.mem_replaceIn_self mem' id_eq
    · exact DeviceRow.mem_replaceIn_of_ne ((same.rows_iff x owned).1 hx) other
  · intro hx
    rcases DeviceRow.mem_replaceIn hx with rfl | ⟨hx, other⟩
    · exact DeviceRow.mem_replaceIn_self mem id_eq
    · exact DeviceRow.mem_replaceIn_of_ne ((same.rows_iff x owned).2 hx) other

/-- A device of the organization is in both stores or in neither. -/
theorem device_cases (same : s.SameTenant organizationId t) (deviceId : String) :
    (∃ r, r ∈ s.rows ∧ r ∈ t.rows ∧ r.id = deviceId ∧ r.organizationId = organizationId) ∨
      (∀ r ∈ s.rows, r.id = deviceId → r.organizationId ≠ organizationId) ∧
        ∀ r ∈ t.rows, r.id = deviceId → r.organizationId ≠ organizationId := by
  by_cases owned : ∃ r ∈ s.rows, r.id = deviceId ∧ r.organizationId = organizationId
  · obtain ⟨r, mem, id_eq, owner⟩ := owned
    exact .inl ⟨r, mem, (same.rows_iff r owner).1 mem, id_eq, owner⟩
  · refine .inr ⟨?_, ?_⟩
    · exact fun r mem id_eq owner => owned ⟨r, mem, id_eq, owner⟩
    · exact fun r mem id_eq owner => owned ⟨r, (same.rows_iff r owner).2 mem, id_eq, owner⟩

end SameTenant

end Store

end FleetIdentity
