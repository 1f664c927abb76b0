import FleetIdentity.Proofs.Store.Calls
import FleetIdentity.Proofs.Store.Reads
import FleetIdentity.Store.Tables

/-!
# The store in memory, table by table

Two tables with an index each answer every call as the two plain lists do. The relation below says
what a look-up in each of the four maps gives in terms of the lists; it holds of the empty store and
is preserved by every call that brings a fresh id. The order in which a map lists its entries does
not enter the answers, since both lists that are answered are sorted by a key that is unique.
-/

namespace FleetIdentity

/-! ### Maps and lists -/

/-- Under each key the map has what the first entry of the list with that key refers to. -/
def Indexes {α β : Type} (d : Dictionary β) (key : α → String) (ref : α → β) (entries : List α) :
    Prop :=
  ∀ k, d.get? k = (entries.find? (key · == k)).map ref

namespace Indexes

variable {α β : Type} {d : Dictionary β} {key : α → String} {ref : α → β} {entries : List α}

theorem empty (key : α → String) (ref : α → β) : Indexes .empty key ref [] :=
  fun _ => rfl

theorem contains (h : Indexes d key ref entries) (k : String) :
    d.contains k = (entries.find? (key · == k)).isSome := by
  rw [Dictionary.contains, h k, Option.isSome_map]

theorem append (h : Indexes d key ref entries) {a : α} (fresh : ∀ x ∈ entries, key x ≠ key a) :
    Indexes (d.insert (key a) (ref a)) key ref (entries ++ [a]) := by
  intro k
  rw [Dictionary.get?_insert, List.find?_append, h k]
  by_cases same : k = key a
  · subst same
    have absent : entries.find? (key · == key a) = none := by
      refine List.find?_eq_none.2 fun x mem hit => ?_
      exact fresh x mem (beq_iff_eq.1 hit)
    simp [absent]
  · have other : (key a == k) = false := beq_false_of_ne (Ne.symm same)
    simp [same, other]

/-- A change of the entries that keeps their keys and what they refer to does not touch the map. -/
theorem map (h : Indexes d key ref entries) {f : α → α} (key_eq : ∀ x ∈ entries, key (f x) = key x)
    (ref_eq : ∀ x ∈ entries, ref (f x) = ref x) : Indexes d key ref (entries.map f) := by
  intro k
  have same : ∀ x ∈ entries, ((key · == k) ∘ f) x = (key x == k) := by
    intro x mem
    rw [Function.comp_apply, key_eq x mem]
  rw [h k, List.find?_map, List.find?_congr same]
  cases found : entries.find? (key · == k) with
  | none => rfl
  | some x => rw [Option.map_some, Option.map_some, Option.map_some,
      ref_eq x (List.mem_of_find?_eq_some found)]

/-- A table of the entries themselves lists them all, in some order. -/
theorem values_perm {d : Dictionary α} (h : Indexes d key id entries)
    (distinct : (entries.map key).Nodup) : d.values.Perm entries := by
  have hit (k : String) (a : α) : d.get? k = some a ↔ a ∈ entries ∧ key a = k := by
    rw [h k, Option.map_id, id]
    constructor
    · exact mem_of_find?_beq
    · rintro ⟨mem, rfl⟩
      exact find?_beq_of_mem distinct mem
  have keyed : ∀ e ∈ d.entries, key e.2 = e.1 := by
    rintro ⟨k, a⟩ mem
    exact ((hit k a).1 (Dictionary.mem_entries_iff.1 mem)).2
  have values_nodup : d.values.Nodup := by
    refine List.Nodup.of_map key ?_
    have keys : d.values.map key = d.entries.map (·.1) := by
      rw [Dictionary.values, List.map_map]
      exact List.map_congr_left keyed
    rw [keys]
    exact d.keys_nodup
  refine (List.perm_ext_iff_of_nodup values_nodup (List.Nodup.of_map key distinct)).2 fun a => ?_
  rw [Dictionary.values, List.mem_map]
  constructor
  · rintro ⟨⟨k, b⟩, mem, rfl⟩
    exact ((hit k b).1 (Dictionary.mem_entries_iff.1 mem)).1
  · intro mem
    exact ⟨(key a, a), Dictionary.mem_entries_iff.2 ((hit _ _).2 ⟨mem, rfl⟩), rfl⟩

end Indexes

/-- Lists of the same entries, sorted by a key that tells them apart, are equal. -/
theorem mergeSort_eq_of_perm {α : Type} (key : α → String) {l l' : List α} (perm : l.Perm l')
    (inj : ∀ a ∈ l, ∀ b ∈ l, key a = key b → a = b) :
    l.mergeSort (fun a b => key a ≤ key b) = l'.mergeSort (fun a b => key a ≤ key b) := by
  have sorted (l : List α) : (l.mergeSort (fun a b => key a ≤ key b)).Pairwise
      (fun a b => decide (key a ≤ key b) = true) := by
    refine List.pairwise_mergeSort ?_ ?_ l
    · intro a b c ab bc
      exact decide_eq_true (String.le_trans (of_decide_eq_true ab) (of_decide_eq_true bc))
    · intro a b
      simpa using String.le_total (key a) (key b)
  refine List.Perm.eq_of_pairwise ?_ (sorted l) (sorted l')
    ((List.mergeSort_perm l _).trans (perm.trans (List.mergeSort_perm l' _).symm))
  intro a b ha hb ab ba
  refine inj a (List.mem_mergeSort.1 ha) b (perm.mem_iff.2 (List.mem_mergeSort.1 hb)) ?_
  exact String.le_antisymm (of_decide_eq_true ab) (of_decide_eq_true ba)

/-! ### The four maps -/

/-- The tables and the indexes hold what the lists hold. -/
structure Represents (t : MemoryTables) (s : MemoryStore) : Prop where
  organizations : Indexes t.organizations (·.id) id s.organizations
  organizationNames : Indexes t.organizationNames (·.name) (·.id) s.organizations
  devices : Indexes t.devices (·.id) id s.devices
  deviceKeys : Indexes t.deviceKeys (·.device.naturalKey) (·.id) s.devices

namespace MemoryTables

/-- Makes a call. -/
def perform (t : MemoryTables) : Call → Except IdentityError Answer × MemoryTables
  | .createOrganization id new => settle t .created (t.createOrganization id new)
  | .getOrganization id => ((t.getOrganization id).map .organization, t)
  | .getOrganizationByName name => ((t.getOrganizationByName name).map .organization, t)
  | .listOrganizations => (t.listOrganizations.map .organizations, t)
  | .createDevice id new => settle t .created (t.createDevice id new)
  | .getDevice brand model serialNumber =>
    ((t.getDevice brand model serialNumber).map .enrollment, t)
  | .getDeviceById id => ((t.getDeviceById id).map .enrollment, t)
  | .enrollDevice request => settle t .enrollment (t.enrollDevice request)
  | .updateDeviceStatus id update =>
    settle t (fun _ => .done) ((t.updateDeviceStatus id update).map fun t => ((), t))
  | .updateDeviceData id deviceData =>
    settle t (fun _ => .done) ((t.updateDeviceData id deviceData).map fun t => ((), t))
  | .listDevices organizationId => ((t.listDevices organizationId).map .enrollments, t)

/-- The tables that calls make out of empty ones. -/
inductive Attained : MemoryTables → Prop where
  | empty : Attained .empty
  | perform {t : MemoryTables} (attained : Attained t) (call : Call)
    (fresh : call.FreshFor t.organizations.values) : Attained (t.perform call).2

end MemoryTables

theorem represents_empty : Represents .empty .empty where
  organizations := .empty _ _
  organizationNames := .empty _ _
  devices := .empty _ _
  deviceKeys := .empty _ _

namespace Represents

variable {t : MemoryTables} {s : MemoryStore} {r : DeviceRecord}

/-! ### Reads -/

theorem get?_organization (h : Represents t s) (id : String) :
    t.organizations.get? id = s.findOrganization id :=
  (h.organizations id).trans (congrFun Option.map_id _)

theorem get?_device (h : Represents t s) (id : String) : t.devices.get? id = s.findDevice id :=
  (h.devices id).trans (congrFun Option.map_id _)

theorem enrollment (h : Represents t s) : t.enrollment = s.enrollment := by
  funext r
  rewrite [MemoryTables.enrollment, MemoryStore.enrollment, h.get?_organization]
  rfl

theorem deviceById (h : Represents t s) : t.deviceById = s.deviceById := by
  funext id
  rewrite [MemoryTables.deviceById, MemoryStore.deviceById, h.get?_device]
  rfl

/-- The index leads to the device with the key. -/
theorem deviceByKey (h : Represents t s) (sound : Store.Sound (.memory s)) (key : String) :
    t.deviceId key >>= t.deviceById = s.deviceByKey key := by
  rw [MemoryTables.deviceId, MemoryStore.deviceByKey, h.deviceKeys key, MemoryStore.findDeviceKeyed,
    h.deviceById]
  cases found : s.devices.find? (·.device.naturalKey == key) with
  | none => rfl
  | some r =>
    have mem := List.mem_of_find?_eq_some found
    exact MemoryStore.deviceById_eq_ok_iff.2 (sound.findDevice mem)

theorem getOrganization (h : Represents t s) (id : String) :
    t.getOrganization id = s.getOrganization id := by
  rewrite [MemoryTables.getOrganization, MemoryStore.getOrganization, h.get?_organization]
  rfl

theorem getOrganizationByName (h : Represents t s) (unmixed : Store.Unmixed (.memory s))
    (name : String) : t.getOrganizationByName name = s.getOrganizationByName name := by
  have lookup : (t.organizationNames.get? name).bind t.organizations.get? =
      s.findOrganizationNamed name := by
    rw [h.organizationNames name, MemoryStore.findOrganizationNamed]
    cases found : s.organizations.find? (·.name == name) with
    | none => rfl
    | some o =>
      rw [Option.map_some, Option.bind_some, h.get?_organization]
      exact find?_beq_of_mem unmixed.ids (List.mem_of_find?_eq_some found)
  rewrite [MemoryTables.getOrganizationByName, MemoryStore.getOrganizationByName, lookup]
  rfl

theorem listOrganizations (h : Represents t s) (unmixed : Store.Unmixed (.memory s)) :
    t.listOrganizations = s.listOrganizations := by
  have perm := h.organizations.values_perm unmixed.ids
  refine congrArg Except.ok (mergeSort_eq_of_perm (·.name) perm ?_)
  intro a ha b hb same
  exact List.inj_on_of_nodup_map unmixed.names (perm.mem_iff.1 ha) (perm.mem_iff.1 hb) same

theorem getDeviceById (h : Represents t s) (id : String) :
    t.getDeviceById id = s.getDeviceById id := by
  rw [MemoryTables.getDeviceById, MemoryStore.getDeviceById, h.deviceById, h.enrollment]

theorem getDevice (h : Represents t s) (sound : Store.Sound (.memory s))
    (brand model serialNumber : String) :
    t.getDevice brand model serialNumber = s.getDevice brand model serialNumber := by
  rw [MemoryStore.getDevice, ← h.deviceByKey sound, bind_assoc, ← h.enrollment]
  rfl

theorem device_ids (sound : Store.Sound (.memory s)) : (s.devices.map (·.id)).Nodup := by
  have ids := sound.ids
  rw [Store.rows, List.map_map] at ids
  exact ids

theorem device_keys (sound : Store.Sound (.memory s)) :
    (s.devices.map (·.device.naturalKey)).Nodup := by
  have keys := sound.keys
  rw [Store.rows, List.map_map] at keys
  refine List.Nodup.of_map (fun key => [key]) ?_
  rw [List.map_map]
  exact keys

theorem eq_of_naturalKey (sound : Store.Sound (.memory s)) {x y : DeviceRecord} {a b : Enrollment}
    (hx : x ∈ s.devices) (hy : y ∈ s.devices)
    (x_shown : (Store.memory s).enrollment? x.row = some a)
    (y_shown : (Store.memory s).enrollment? y.row = some b)
    (same : a.device.naturalKey = b.device.naturalKey) : a = b := by
  rw [(Store.eq_of_enrollment? x_shown).2.1, (Store.eq_of_enrollment? y_shown).2.1] at same
  obtain rfl := List.inj_on_of_nodup_map (device_keys sound) hx hy same
  exact Option.some.inj (x_shown.symm.trans y_shown)

theorem listDevices (h : Represents t s) (sound : Store.Sound (.memory s))
    (organizationId : String) : t.listDevices organizationId = s.listDevices organizationId := by
  have read {l : List DeviceRecord} (part : ∀ r ∈ l, r ∈ s.devices) : l.mapM s.enrollment =
      .ok (l.filterMap fun r => (Store.memory s).enrollment? r.row) := by
    refine Store.mapM_eq_ok fun r mem => ?_
    obtain ⟨e, shown⟩ := sound.enrollment? (List.mem_map_of_mem (part r mem))
    exact ⟨e, Store.enrollment_memory.2 shown, shown⟩
  have perm := h.devices.values_perm (device_ids sound)
  have listed := (perm.filter (·.organizationId == organizationId)).filterMap
    fun r => (Store.memory s).enrollment? r.row
  have sorted := mergeSort_eq_of_perm (·.device.naturalKey) listed fun a ha b hb same => by
    obtain ⟨x, hx, x_shown⟩ := List.mem_filterMap.1 ha
    obtain ⟨y, hy, y_shown⟩ := List.mem_filterMap.1 hb
    exact eq_of_naturalKey sound (perm.mem_iff.1 (List.mem_filter.1 hx).1)
      (perm.mem_iff.1 (List.mem_filter.1 hy).1) x_shown y_shown same
  rw [MemoryTables.listDevices, MemoryStore.listDevices, h.enrollment,
    read fun r mem => perm.mem_iff.1 (List.mem_filter.1 mem).1,
    read fun r mem => (List.mem_filter.1 mem).1]
  exact congrArg Except.ok sorted

/-! ### Writes -/

/-- The same answer with tables that represent the new lists, or the same failure. -/
def Matches {α : Type} :
    Except IdentityError (α × MemoryTables) → Except IdentityError (α × MemoryStore) → Prop
  | .ok (a, t), .ok (b, s) => a = b ∧ Represents t s
  | .error e, .error f => e = f
  | _, _ => False

theorem createOrganization (h : Represents t s) {id : String}
    (fresh : ∀ o ∈ s.organizations, o.id ≠ id) (new : NewOrganization) :
    Matches (t.createOrganization id new) (s.createOrganization id new) := by
  rw [MemoryTables.createOrganization, MemoryStore.createOrganization,
    h.organizationNames.contains, MemoryStore.findOrganizationNamed]
  cases requireField "name" new.name with
  | error e => rfl
  | ok _ =>
    cases found : s.organizations.find? (·.name == new.name) with
    | some o => rfl
    | none =>
      have named : ∀ o ∈ s.organizations, o.name ≠ new.name :=
        fun o mem => by simpa using List.find?_eq_none.1 found o mem
      exact ⟨rfl, h.organizations.append (a := new.stored id) fresh,
        h.organizationNames.append (a := new.stored id) named, h.devices, h.deviceKeys⟩

theorem createDevice (h : Represents t s) (id : String) (new : NewDevice) :
    Matches (t.createDevice id new) (s.createDevice id new) := by
  rw [MemoryTables.createDevice, MemoryStore.createDevice, h.organizations.contains,
    h.deviceKeys.contains, h.devices.contains, MemoryStore.findOrganization,
    MemoryStore.findDeviceKeyed, MemoryStore.findDevice]
  cases new.check with
  | error e => rfl
  | ok _ =>
  cases s.organizations.find? (·.id == new.organizationId) with
  | none => rfl
  | some o =>
  cases keyed : s.devices.find? (·.device.naturalKey == new.naturalKey) with
  | some r => rfl
  | none =>
  cases found : s.devices.find? (·.id == id) with
  | some r => rfl
  | none =>
    have key_free : ∀ r ∈ s.devices, r.device.naturalKey ≠ new.naturalKey :=
      fun r mem => by simpa using List.find?_eq_none.1 keyed r mem
    have id_free : ∀ r ∈ s.devices, r.id ≠ id :=
      fun r mem => by simpa using List.find?_eq_none.1 found r mem
    exact ⟨rfl, h.organizations, h.organizationNames,
      h.devices.append (a := new.record id) id_free,
      h.deviceKeys.append (a := new.record id) key_free⟩

/-- A device may be replaced by one with its id and its natural key. -/
theorem replace (h : Represents t s) (sound : Store.Sound (.memory s)) {old r : DeviceRecord}
    (mem : old ∈ s.devices) (id_eq : r.id = old.id)
    (key_eq : r.device.naturalKey = old.device.naturalKey) :
    Represents (t.replace old.id r) (s.replace r) := by
  rw [← id_eq]
  have keys : ∀ x ∈ s.devices, (if x.id = r.id then r else x).device.naturalKey =
      x.device.naturalKey := by
    intro x hx
    split
    · next same =>
      rw [List.inj_on_of_nodup_map (device_ids sound) hx mem (same.trans id_eq), key_eq]
    · rfl
  have ids : ∀ x ∈ s.devices, (if x.id = r.id then r else x).id = x.id := by
    intro x _
    split
    · next same => exact same.symm
    · rfl
  refine ⟨h.organizations, h.organizationNames, fun k => ?_, h.deviceKeys.map keys ids⟩
  have same : ∀ x ∈ s.devices, ((·.id == k) ∘ fun x => if x.id = r.id then r else x) x =
      (x.id == k) := by
    intro x hx
    rw [Function.comp_apply, ids x hx]
  rw [MemoryTables.replace, Dictionary.get?_insert, MemoryStore.replace, List.find?_map,
    List.find?_congr same, h.devices k]
  cases found : s.devices.find? (·.id == k) with
  | none =>
    have other : k ≠ r.id := by
      rintro rfl
      exact absurd id_eq.symm (by simpa using List.find?_eq_none.1 found old mem)
    rw [if_neg other]
    rfl
  | some x =>
    have x_id : x.id = k := (mem_of_find?_beq found).2
    rw [← x_id]
    by_cases hit : x.id = r.id
    · simp [hit]
    · simp [hit]

theorem enrollDevice (h : Represents t s) (sound : Store.Sound (.memory s))
    (request : EnrollmentRequest) : Matches (t.enrollDevice request) (s.enrollDevice request) := by
  rw [MemoryTables.enrollDevice, MemoryStore.enrollDevice, ← h.deviceByKey sound, bind_assoc,
    MemoryTables.deviceId, h.deviceKeys request.naturalKey]
  cases found : s.devices.find? (·.device.naturalKey == request.naturalKey) with
  | none => rfl
  | some r =>
    have mem := List.mem_of_find?_eq_some found
    have there : t.deviceById r.id = .ok r := by
      rw [h.deviceById]
      exact MemoryStore.deviceById_eq_ok_iff.2 (sound.findDevice mem)
    simp only [Option.map_some, bind, Except.bind, there]
    by_cases waiting : r.status ≠ .waiting
    · rw [if_pos waiting, if_pos waiting]
      rfl
    · rw [if_neg waiting, if_neg waiting]
      have next : Represents (t.replace r.id (r.enrolled request))
          (s.replace (r.enrolled request)) := h.replace sound mem rfl rfl
      have again : (t.replace r.id (r.enrolled request)).deviceById r.id =
          .ok (r.enrolled request) := by
        rw [MemoryTables.deviceById, MemoryTables.replace, Dictionary.get?_insert, if_pos rfl]
      simp only [again, next.enrollment]
      show Matches (((s.replace (r.enrolled request)).enrollment (r.enrolled request)) >>=
          fun e => .ok (e, t.replace r.id (r.enrolled request)))
        (((s.replace (r.enrolled request)).enrollment (r.enrolled request)) >>=
          fun e => .ok (e, s.replace (r.enrolled request)))
      cases (s.replace (r.enrolled request)).enrollment (r.enrolled request) with
      | error e => rfl
      | ok e => exact ⟨rfl, next⟩

theorem updateDeviceStatus (h : Represents t s) (sound : Store.Sound (.memory s)) (id : String)
    (update : StatusUpdate) : Matches ((t.updateDeviceStatus id update).map fun t => ((), t))
      ((s.updateDeviceStatus id update).map fun s => ((), s)) := by
  rw [MemoryTables.updateDeviceStatus, MemoryStore.updateDeviceStatus, h.deviceById]
  cases found : s.deviceById id with
  | error e => rfl
  | ok r =>
    obtain ⟨mem, rfl⟩ := mem_of_find?_beq (MemoryStore.deviceById_eq_ok_iff.1 found)
    simp only [bind, Except.bind]
    by_cases expected : r.status ≠ update.expected
    · rw [if_pos expected, if_pos expected]
      rfl
    · rw [if_neg expected, if_neg expected]
      exact ⟨rfl, h.replace sound mem rfl rfl⟩

theorem updateDeviceData (h : Represents t s) (sound : Store.Sound (.memory s))
    (id deviceData : String) : Matches ((t.updateDeviceData id deviceData).map fun t => ((), t))
      ((s.updateDeviceData id deviceData).map fun s => ((), s)) := by
  rw [MemoryTables.updateDeviceData, MemoryStore.updateDeviceData, h.deviceById]
  cases found : s.deviceById id with
  | error e => rfl
  | ok r =>
    obtain ⟨mem, rfl⟩ := mem_of_find?_beq (MemoryStore.deviceById_eq_ok_iff.1 found)
    exact ⟨rfl, h.replace sound mem rfl rfl⟩

/-! ### Calls -/

theorem settle {α : Type} (h : Represents t s) {toAnswer : α → Answer}
    {x : Except IdentityError (α × MemoryTables)} {y : Except IdentityError (α × MemoryStore)}
    (same : Matches x y) :
    ∃ s', FleetIdentity.settle (Store.memory s) toAnswer (Store.answer .memory y) =
        ((FleetIdentity.settle t toAnswer x).1, .memory s') ∧
      Represents (FleetIdentity.settle t toAnswer x).2 s' := by
  cases x with
  | error e =>
    cases y with
    | error f =>
      obtain rfl : e = f := same
      exact ⟨s, rfl, h⟩
    | ok v => exact same.elim
  | ok u =>
    cases y with
    | error f => exact same.elim
    | ok v =>
      obtain ⟨a, t'⟩ := u
      obtain ⟨b, s'⟩ := v
      obtain ⟨rfl, next⟩ := same
      exact ⟨s', rfl, next⟩

/-- The tables answer as the lists do, and go on representing them. -/
theorem perform (h : Represents t s) (sound : Store.Sound (.memory s))
    (unmixed : Store.Unmixed (.memory s)) {call : Call} (fresh : call.FreshFor s.organizations) :
    ∃ s', (Store.memory s).perform call = ((t.perform call).1, .memory s') ∧
      Represents (t.perform call).2 s' := by
  cases call with
  | createOrganization id new => exact h.settle (h.createOrganization fresh new)
  | createDevice id new => exact h.settle (h.createDevice id new)
  | enrollDevice request => exact h.settle (h.enrollDevice sound request)
  | updateDeviceStatus id update =>
    rw [Store.perform, Store.updateDeviceStatus, Store.done_eq_answer]
    exact h.settle (h.updateDeviceStatus sound id update)
  | updateDeviceData id deviceData =>
    rw [Store.perform, Store.updateDeviceData, Store.done_eq_answer]
    exact h.settle (h.updateDeviceData sound id deviceData)
  | getOrganization id =>
    rw [MemoryTables.perform, h.getOrganization]
    exact ⟨s, rfl, h⟩
  | getOrganizationByName name =>
    rw [MemoryTables.perform, h.getOrganizationByName unmixed]
    exact ⟨s, rfl, h⟩
  | listOrganizations =>
    rw [MemoryTables.perform, h.listOrganizations unmixed]
    exact ⟨s, rfl, h⟩
  | getDevice brand model serialNumber =>
    rw [MemoryTables.perform, h.getDevice sound]
    exact ⟨s, rfl, h⟩
  | getDeviceById id =>
    rw [MemoryTables.perform, h.getDeviceById]
    exact ⟨s, rfl, h⟩
  | listDevices organizationId =>
    rw [MemoryTables.perform, h.listDevices sound]
    exact ⟨s, rfl, h⟩

theorem outcomes (h : Represents t s) (sound : Store.Sound (.memory s))
    (unmixed : Store.Unmixed (.memory s)) {calls : List Call}
    (fresh : Store.FreshRun (.memory s) calls) :
    FleetIdentity.outcomes MemoryTables.perform t calls =
      FleetIdentity.outcomes Store.perform (.memory s) calls := by
  induction calls generalizing t s with
  | nil => rfl
  | cons call calls ih =>
    obtain ⟨first, later⟩ := fresh
    obtain ⟨s', step, next⟩ := h.perform sound unmixed first
    have sound' := sound.perform call
    have unmixed' := unmixed.perform first
    rw [step] at later sound' unmixed'
    rw [FleetIdentity.outcomes, FleetIdentity.outcomes, step, ih next sound' unmixed' later]

end Represents

theorem MemoryTables.Attained.represents {t : MemoryTables} (h : t.Attained) :
    ∃ s, (Store.memory s).Attained ∧ Represents t s := by
  induction h with
  | empty => exact ⟨.empty, .memory, represents_empty⟩
  | @perform t _ call fresh ih =>
    obtain ⟨s, attained, h⟩ := ih
    have unmixed := attained.unmixed
    have perm := h.organizations.values_perm unmixed.ids
    have fresh' : call.FreshFor s.organizations := by
      cases call with
      | createOrganization id new => exact fun o mem => fresh o (perm.mem_iff.2 mem)
      | _ => trivial
    obtain ⟨s', step, next⟩ := h.perform attained.sound unmixed fresh'
    have attained' := attained.perform call fresh'
    rw [step] at attained'
    exact ⟨s', attained', next⟩

end FleetIdentity
