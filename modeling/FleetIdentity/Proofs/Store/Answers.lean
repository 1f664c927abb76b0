import FleetIdentity.Proofs.Store.Soundness

/-!
# What a sound store answers about one device

The device with an id is the one row with that id; an update that fits it succeeds. Both stores are
covered alike.
-/

namespace FleetIdentity

namespace DeviceRow

theorem replaceIn_self {rows : List DeviceRow} (ids : (rows.map (·.id)).Nodup) {r : DeviceRow}
    (mem : r ∈ rows) : replaceIn rows r = rows := by
  have same := map_replaceIn (f := fun x => x) ids mem rfl rfl
  rwa [List.map_id', List.map_id'] at same

theorem replaceIn_replaceIn (rows : List DeviceRow) {a b : DeviceRow} (same : a.id = b.id) :
    replaceIn (replaceIn rows a) b = replaceIn rows b := by
  rw [replaceIn, replaceIn, replaceIn, List.map_map]
  refine List.map_congr_left fun other _ => ?_
  show (if (if other.id = a.id then a else other).id = b.id then b
    else if other.id = a.id then a else other) = if other.id = b.id then b else other
  by_cases hit : other.id = a.id
  · rw [if_pos hit, if_pos same, if_pos (hit.trans same)]
  · rw [if_neg hit]

end DeviceRow

theorem find?_eq_some_of_unique {α : Type} {p : α → Bool} {l : List α} {a : α} (mem : a ∈ l)
    (hit : p a = true) (unique : ∀ b ∈ l, p b = true → b = a) : l.find? p = some a := by
  obtain ⟨b, found⟩ := Option.isSome_iff_exists.1 (List.find?_isSome.2 ⟨a, mem, hit⟩)
  rw [found, unique b (List.mem_of_find?_eq_some found) (List.find?_some found)]

theorem find?_beq_of_mem {α : Type} {key : α → String} {entries : List α}
    (distinct : (entries.map key).Nodup) {a : α} (mem : a ∈ entries) :
    entries.find? (fun x => key x == key a) = some a := by
  refine find?_eq_some_of_unique mem (beq_iff_eq.2 rfl) fun b b_mem same => ?_
  exact List.inj_on_of_nodup_map distinct b_mem mem (beq_iff_eq.1 same)

namespace Store

variable {s s' : Store} {id : String}

theorem Becomes.refl (s : Store) : s.Becomes s s.organizations s.rows :=
  ⟨rfl, fun tables => tables, rfl, rfl⟩

theorem Becomes.trans {t : Store} {os os' : List Organization} {rs rs' : List DeviceRow}
    (first : s.Becomes t os rs) (second : t.Becomes s' os' rs') : s.Becomes s' os' rs' :=
  ⟨second.kind_eq.trans first.kind_eq, fun tables => second.hasTables (first.hasTables tables),
    second.organizations_eq, second.rows_eq⟩

theorem getDeviceById_ok {e : Enrollment} (h : s.getDeviceById id = .ok e) :
    ∃ r ∈ s.rows, ∃ o ∈ s.organizations, ∃ status, r.id = id ∧ o.id = r.organizationId ∧
      r.statusCode = Status.code status ∧ e = r.toEnrollment o status := by
  cases s with
  | memory t =>
    rw [Store.getDeviceById, MemoryStore.getDeviceById] at h
    obtain ⟨record, found, read⟩ := bind_eq_ok_iff.1 h
    obtain ⟨mem, same_id⟩ := mem_of_find?_beq (MemoryStore.deviceById_eq_ok_iff.1 found)
    obtain ⟨o, owner, rfl⟩ := MemoryStore.enrollment_eq_ok_iff.1 read
    obtain ⟨owner_mem, owned⟩ := mem_of_find?_beq owner
    exact ⟨record.row, List.mem_map_of_mem mem, o, owner_mem, record.status, same_id, owned, rfl,
      rfl⟩
  | database t =>
    rw [Store.getDeviceById, Database.getDeviceById] at h
    obtain ⟨joined, joined_eq, read⟩ := bind_eq_ok_iff.1 h
    split at read
    · next r o found =>
      obtain ⟨_, mem, owner, owned⟩ := Database.mem_joined joined_eq
        (List.mem_of_find?_eq_some found)
      have same_id := List.find?_some found
      obtain ⟨status, code, rfl⟩ := DeviceRow.enrollment_eq_ok_iff.1 read
      exact ⟨r, mem, o, owner, status, beq_iff_eq.1 same_id, owned, code, rfl⟩
    · cases read

theorem Sound.findDevice {t : MemoryStore} (h : Sound (.memory t)) {record : DeviceRecord}
    (mem : record ∈ t.devices) : t.findDevice record.id = some record := by
  have ids := h.ids
  rw [Store.rows, List.map_map] at ids
  exact find?_beq_of_mem ids mem

theorem Sound.findRow {t : Database} (h : Sound (.database t)) {r : DeviceRow}
    (mem : r ∈ (Store.database t).rows) :
    ∃ rows, t.devices = some rows ∧ rows.find? (·.id == r.id) = some r := by
  obtain ⟨rows, devices⟩ := Option.isSome_iff_exists.1 h.hasTables.2
  have ids := h.ids
  rw [Store.rows, devices] at ids mem
  exact ⟨rows, devices, find?_beq_of_mem ids mem⟩

theorem updateDeviceStatus_of_mem (h : s.Sound) {r : DeviceRow} (mem : r ∈ s.rows)
    (update : StatusUpdate) (expected : r.statusCode = update.expected.code) :
    ∃ s', s.updateDeviceStatus r.id update = .ok ((), s') ∧
      s.Becomes s' s.organizations (DeviceRow.replaceIn s.rows (r.updated update)) := by
  have succeeds : ∃ s', s.updateDeviceStatus r.id update = .ok ((), s') := by
    cases s with
    | memory t =>
      obtain ⟨record, record_mem, rfl⟩ := List.mem_map.1 mem
      have status_eq : record.status = update.expected := Status.code_inj.1 expected
      have made : t.updateDeviceStatus record.id update = .ok (t.replace
          { record with status := update.status, deviceData := update.deviceData }) := by
        rw [MemoryStore.updateDeviceStatus,
          MemoryStore.deviceById_eq_ok_iff.2 (h.findDevice record_mem)]
        exact if_neg fun ne => ne status_eq
      exact ⟨_, done_eq_ok_iff.2 ⟨_, made, rfl⟩⟩
    | database t =>
      obtain ⟨rows, devices, found⟩ := h.findRow mem
      have made : t.updateDeviceStatus r.id update = .ok (t.replace
          { r with statusCode := update.status.code, deviceData := update.deviceData }) := by
        rw [Database.updateDeviceStatus, Database.deviceRows_eq_ok_iff.2 devices]
        simp only [bind, Except.bind, found]
        exact if_neg fun ne => ne expected
      exact ⟨_, done_eq_ok_iff.2 ⟨_, made, rfl⟩⟩
  obtain ⟨s', made⟩ := succeeds
  obtain ⟨hit, hit_mem, same_id, _, becomes⟩ := updateDeviceStatus_ok made
  obtain rfl := DeviceRow.eq_of_id h.ids hit_mem mem same_id
  exact ⟨s', made, becomes⟩

theorem updateDeviceData_of_mem (h : s.Sound) {r : DeviceRow} (mem : r ∈ s.rows)
    (deviceData : String) :
    ∃ s', s.updateDeviceData r.id deviceData = .ok ((), s') ∧
      s.Becomes s' s.organizations (DeviceRow.replaceIn s.rows { r with deviceData }) := by
  have succeeds : ∃ s', s.updateDeviceData r.id deviceData = .ok ((), s') := by
    cases s with
    | memory t =>
      obtain ⟨record, record_mem, rfl⟩ := List.mem_map.1 mem
      have made : t.updateDeviceData record.id deviceData =
          .ok (t.replace { record with deviceData }) := by
        rw [MemoryStore.updateDeviceData,
          MemoryStore.deviceById_eq_ok_iff.2 (h.findDevice record_mem)]
        rfl
      exact ⟨_, done_eq_ok_iff.2 ⟨_, made, rfl⟩⟩
    | database t =>
      obtain ⟨rows, devices, found⟩ := h.findRow mem
      have made : t.updateDeviceData r.id deviceData = .ok (t.replace { r with deviceData }) := by
        rw [Database.updateDeviceData, Database.deviceRows_eq_ok_iff.2 devices]
        simp only [bind, Except.bind, found]
        rfl
      exact ⟨_, done_eq_ok_iff.2 ⟨_, made, rfl⟩⟩
  obtain ⟨s', made⟩ := succeeds
  obtain ⟨hit, hit_mem, same_id, becomes⟩ := updateDeviceData_ok made
  obtain rfl := DeviceRow.eq_of_id h.ids hit_mem mem same_id
  exact ⟨s', made, becomes⟩

end Store

end FleetIdentity
