import FleetIdentity.Proofs.Store.Rows
import Mathlib.Data.List.Nodup
import Mathlib.Logic.Relation

/-!
# What holds of every store that writes can make

A store that starts empty and is changed by its five writes alone keeps both tables, knows each
device by one id and one look-up key, finds the owner of each device and can read each status. The
ids that are handed in for organizations are not assumed to be new.
-/

namespace FleetIdentity

namespace DeviceRow

theorem eq_of_id {rows : List DeviceRow} (ids : (rows.map (·.id)).Nodup) {a b : DeviceRow}
    (ha : a ∈ rows) (hb : b ∈ rows) (same : a.id = b.id) : a = b :=
  List.inj_on_of_nodup_map ids ha hb same

theorem mem_replaceIn {rows : List DeviceRow} {r x : DeviceRow} (h : x ∈ replaceIn rows r) :
    x = r ∨ (x ∈ rows ∧ x.id ≠ r.id) := by
  obtain ⟨other, mem, eq⟩ := List.mem_map.1 h
  split at eq
  · exact .inl eq.symm
  · next ne =>
    subst eq
    exact .inr ⟨mem, ne⟩

theorem mem_replaceIn_of_ne {rows : List DeviceRow} {r x : DeviceRow} (h : x ∈ rows)
    (ne : x.id ≠ r.id) : x ∈ replaceIn rows r :=
  List.mem_map.2 ⟨x, h, if_neg ne⟩

theorem mem_replaceIn_self {rows : List DeviceRow} {old r : DeviceRow} (h : old ∈ rows)
    (same : r.id = old.id) : r ∈ replaceIn rows r :=
  List.mem_map.2 ⟨old, h, if_pos same.symm⟩

/-- The id of a device, and the brand, model and serial number that name it. -/
def identity (r : DeviceRow) : String × String × String × String :=
  (r.id, r.device.brand, r.device.model, r.device.serialNumber)

/-- What the new row has in common with the old one, all the rows have in common with before. -/
theorem map_replaceIn {α : Type} {f : DeviceRow → α} {rows : List DeviceRow} {old r : DeviceRow}
    (ids : (rows.map (·.id)).Nodup) (mem : old ∈ rows) (same : r.id = old.id) (eq : f r = f old) :
    (replaceIn rows r).map f = rows.map f := by
  rw [replaceIn, List.map_map]
  refine List.map_congr_left fun other hm => ?_
  show f (if other.id = r.id then r else other) = f other
  split
  · next hit =>
    rw [eq_of_id ids hm mem (hit.trans same)]
    exact eq
  · rfl

/-- A new row that differs from all others in something keeps it different in all of them. -/
theorem nodup_map_concat {α : Type} {f : DeviceRow → α} {rows : List DeviceRow} {row : DeviceRow}
    (distinct : (rows.map f).Nodup) (free : ∀ r ∈ rows, f r ≠ f row) :
    ((rows ++ [row]).map f).Nodup := by
  rw [List.map_append, List.map_singleton, ← List.concat_eq_append]
  refine distinct.concat fun taken => ?_
  obtain ⟨r, hr, same⟩ := List.mem_map.1 taken
  exact free r hr same

end DeviceRow

namespace Store

/-- A successful write of a store. -/
inductive Write (s s' : Store) : Prop where
  | createOrganization {id answer : String} {new : NewOrganization}
      (done : s.createOrganization id new = .ok (answer, s'))
  | createDevice {id answer : String} {new : NewDevice}
      (done : s.createDevice id new = .ok (answer, s'))
  | enrollDevice {request : EnrollmentRequest} {e : Enrollment}
      (done : s.enrollDevice request = .ok (e, s'))
  | updateDeviceStatus {id : String} {update : StatusUpdate}
      (done : s.updateDeviceStatus id update = .ok ((), s'))
  | updateDeviceData {id deviceData : String}
      (done : s.updateDeviceData id deviceData = .ok ((), s'))

/-- The stores that writes make out of an empty one. -/
inductive Reachable : Store → Prop where
  | memory : Reachable (.memory .empty)
  | database : Reachable (.database .empty)
  | step {s s' : Store} (reached : Reachable s) (write : Write s s') : Reachable s'

/-- The invariant of both stores. -/
structure Sound (s : Store) : Prop where
  hasTables : s.HasTables
  ids : (s.rows.map (·.id)).Nodup
  keys : (s.rows.map s.kind.keyOf).Nodup
  owned : ∀ r ∈ s.rows, ∃ o ∈ s.organizations, o.id = r.organizationId
  readable : ∀ r ∈ s.rows, ∃ status, r.statusCode = Status.code status

variable {s s' : Store}

theorem sound_memory_empty : Sound (.memory .empty) where
  hasTables := trivial
  ids := .nil
  keys := .nil
  owned := nofun
  readable := nofun

theorem sound_database_empty : Sound (.database .empty) where
  hasTables := ⟨rfl, rfl⟩
  ids := .nil
  keys := .nil
  owned := nofun
  readable := nofun

/-- A row in the place of another keeps the invariant if it names the same device and owner. -/
theorem Sound.replace (h : s.Sound) {old r : DeviceRow} (mem : old ∈ s.rows)
    (becomes : s.Becomes s' s.organizations (DeviceRow.replaceIn s.rows r))
    (id_eq : r.id = old.id) (key_eq : s.kind.keyOf r = s.kind.keyOf old)
    (owner_eq : r.organizationId = old.organizationId)
    (readable : ∃ status, r.statusCode = Status.code status) : s'.Sound := by
  obtain ⟨kind_eq, hasTables, organizations_eq, rows_eq⟩ := becomes
  refine ⟨hasTables h.hasTables, ?_, ?_, ?_, ?_⟩
  · rw [rows_eq, DeviceRow.map_replaceIn h.ids mem id_eq id_eq]
    exact h.ids
  · rw [rows_eq, kind_eq, DeviceRow.map_replaceIn h.ids mem id_eq key_eq]
    exact h.keys
  · rw [rows_eq, organizations_eq]
    intro x hx
    rcases DeviceRow.mem_replaceIn hx with rfl | ⟨hx, _⟩
    · rw [owner_eq]
      exact h.owned old mem
    · exact h.owned x hx
  · rw [rows_eq]
    intro x hx
    rcases DeviceRow.mem_replaceIn hx with rfl | ⟨hx, _⟩
    · exact readable
    · exact h.readable x hx

theorem Sound.write (h : s.Sound) (write : Write s s') : s'.Sound := by
  cases write with
  | createOrganization done =>
    obtain ⟨_, _, _, kind_eq, hasTables, organizations_eq, rows_eq⟩ := createOrganization_ok done
    refine ⟨hasTables h.hasTables, ?_, ?_, ?_, ?_⟩
    · rw [rows_eq]
      exact h.ids
    · rw [rows_eq, kind_eq]
      exact h.keys
    · rw [rows_eq, organizations_eq]
      intro r hr
      obtain ⟨o, ho, owner⟩ := h.owned r hr
      exact ⟨o, List.mem_append_left _ ho, owner⟩
    · rw [rows_eq]
      exact h.readable
  | @createDevice id _ new done =>
    obtain ⟨_, _, owner, free, kind_eq, hasTables, organizations_eq, rows_eq⟩ :=
      createDevice_ok done
    refine ⟨hasTables h.hasTables, ?_, ?_, ?_, ?_⟩
    · rw [rows_eq]
      exact DeviceRow.nodup_map_concat h.ids fun r hr => (free r hr).1
    · rw [rows_eq, kind_eq]
      exact DeviceRow.nodup_map_concat h.keys fun r hr => (free r hr).2
    · rw [rows_eq, organizations_eq]
      intro r hr
      rcases List.mem_append.1 hr with hr | hr
      · exact h.owned r hr
      · obtain rfl := List.mem_singleton.1 hr
        exact owner
    · rw [rows_eq]
      intro r hr
      rcases List.mem_append.1 hr with hr | hr
      · exact h.readable r hr
      · obtain rfl := List.mem_singleton.1 hr
        exact ⟨.waiting, rfl⟩
  | enrollDevice done =>
    obtain ⟨r, hr, _, _, _, _, _, _, becomes⟩ := enrollDevice_ok done
    exact h.replace hr becomes rfl rfl rfl ⟨.enrolled, rfl⟩
  | @updateDeviceStatus _ update done =>
    obtain ⟨r, hr, _, _, becomes⟩ := updateDeviceStatus_ok done
    exact h.replace hr becomes rfl rfl rfl ⟨update.status, rfl⟩
  | updateDeviceData done =>
    obtain ⟨r, hr, _, becomes⟩ := updateDeviceData_ok done
    exact h.replace hr becomes rfl rfl rfl (h.readable r hr)

theorem Reachable.sound (h : s.Reachable) : s.Sound := by
  induction h with
  | memory => exact sound_memory_empty
  | database => exact sound_database_empty
  | step _ write ih => exact ih.write write

theorem Sound.identities_replaceIn (h : s.Sound) {old r : DeviceRow} (mem : old ∈ s.rows)
    (same : r.identity = old.identity) :
    (DeviceRow.replaceIn s.rows r).map DeviceRow.identity = s.rows.map DeviceRow.identity :=
  DeviceRow.map_replaceIn h.ids mem (congrArg Prod.fst same) same

/-- No write changes the id of a device or what names it, and none removes a device. -/
theorem Sound.identities_prefix (h : s.Sound) (write : Write s s') :
    s.rows.map DeviceRow.identity <+: s'.rows.map DeviceRow.identity := by
  cases write with
  | createOrganization done =>
    obtain ⟨_, _, _, becomes⟩ := createOrganization_ok done
    exact ⟨[], by rw [List.append_nil, becomes.rows_eq]⟩
  | createDevice done =>
    obtain ⟨_, _, _, _, becomes⟩ := createDevice_ok done
    rw [becomes.rows_eq, List.map_append]
    exact List.prefix_append _ _
  | @enrollDevice request _ done =>
    obtain ⟨r, mem, _, _, _, _, _, _, becomes⟩ := enrollDevice_ok done
    have same : (r.enrolled request).identity = r.identity := rfl
    exact ⟨[], by rw [List.append_nil, becomes.rows_eq, h.identities_replaceIn mem same]⟩
  | @updateDeviceStatus _ update done =>
    obtain ⟨r, mem, _, _, becomes⟩ := updateDeviceStatus_ok done
    have same : (r.updated update).identity = r.identity := rfl
    exact ⟨[], by rw [List.append_nil, becomes.rows_eq, h.identities_replaceIn mem same]⟩
  | @updateDeviceData _ deviceData done =>
    obtain ⟨r, mem, _, becomes⟩ := updateDeviceData_ok done
    have same : DeviceRow.identity { r with deviceData } = r.identity := rfl
    exact ⟨[], by rw [List.append_nil, becomes.rows_eq, h.identities_replaceIn mem same]⟩

theorem Sound.after_writes (h : s.Sound) (writes : Relation.ReflTransGen Write s s') :
    s'.Sound ∧ s.rows.map DeviceRow.identity <+: s'.rows.map DeviceRow.identity := by
  induction writes with
  | refl => exact ⟨h, List.prefix_rfl⟩
  | tail _ write ih =>
    obtain ⟨sound, earlier⟩ := ih
    exact ⟨sound.write write, earlier.trans (sound.identities_prefix write)⟩

/-- A store in memory with the organization `acme` and one device of it. -/
def withDevice (device : Device) (status : Status) : Store :=
  .memory {
    organizations := [⟨"o", "acme", "", "", ""⟩]
    devices := [⟨"d", "o", device, ⟨"", "", "", ""⟩, status, ""⟩] }

end Store

end FleetIdentity
