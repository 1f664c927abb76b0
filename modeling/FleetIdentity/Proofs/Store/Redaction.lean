import FleetIdentity.Proofs.Store.Calls
import Mathlib.Data.List.Basic

/-!
# Stores without the keys of organizations

A store looks at the ids and the names of organizations and never at their keys. So a call on a
store whose keys are blanked out is answered as on the store itself, but for the keys in the answer,
and leaves what the call leaves there, but for the keys. Nothing is assumed of the store: a table
may be missing, a status unreadable and an owner absent.
-/

namespace FleetIdentity

/-- The store without the keys of its organizations. -/
def MemoryStore.redacted (t : MemoryStore) : MemoryStore :=
  { t with organizations := t.organizations.map Organization.redacted }

/-- The database without the keys of its organizations. -/
def Database.redacted (t : Database) : Database :=
  { t with organizations := t.organizations.map (List.map Organization.redacted) }

/-- A store of either kind without the keys of its organizations. -/
def Store.redacted : Store → Store
  | .memory t => .memory t.redacted
  | .database t => .database t.redacted

/-- A row and its owner, without the key of the owner. -/
def redactOwner (x : DeviceRow × Organization) : DeviceRow × Organization :=
  (x.1, x.2.redacted)

/-! ### Searches and sorted lists -/

theorem redacted_comp_redacted :
    Organization.redacted ∘ Organization.redacted = Organization.redacted := rfl

theorem map_redacted_redacted (organizations : List Organization) :
    (organizations.map Organization.redacted).map Organization.redacted =
      organizations.map Organization.redacted := by
  rw [List.map_map, redacted_comp_redacted]

theorem map_redacted_append (organizations later : List Organization) :
    (organizations.map Organization.redacted ++ later).map Organization.redacted =
      (organizations ++ later).map Organization.redacted := by
  rw [List.map_append, List.map_append, map_redacted_redacted]

theorem MemoryStore.redacted_redacted (t : MemoryStore) : t.redacted.redacted = t.redacted := by
  rw [redacted, redacted, map_redacted_redacted]

theorem Database.redacted_redacted (t : Database) : t.redacted.redacted = t.redacted := by
  rw [redacted, redacted, Option.map_map]
  exact congrArg (Database.mk · t.stored t.writes)
    (congrArg (Option.map · t.organizations) (funext map_redacted_redacted))

theorem Database.redacted_change (t : Database) (selects : DeviceRow → Bool)
    (f : DeviceRow → DeviceRow) : t.redacted.change selects f = (t.change selects f).redacted := by
  have devices : t.redacted.devices = t.devices := rfl
  rw [change, change, devices]
  split
  · rfl
  · rfl

/-- The keys of organizations make no difference to a row that is put in the place of another. -/
theorem Database.redacted_replace_redacted (t : Database) (r : DeviceRow) :
    (t.redacted.replace r).redacted = (t.replace r).redacted := by
  rw [replace, replace, redacted_change, redacted_redacted]

theorem find?_map_of_blind {α β : Type} {f : α → β} {p : β → Bool} {q : α → Bool}
    (blind : ∀ a, p (f a) = q a) (l : List α) : (l.map f).find? p = (l.find? q).map f := by
  rw [List.find?_map]
  exact congrArg (Option.map f ∘ fun q => l.find? q) (funext blind)

theorem mergeSort_map_of_blind {α β : Type} {f : α → β} {r : α → α → Bool} {s : β → β → Bool}
    (blind : ∀ a b, s (f a) (f b) = r a b) (l : List α) :
    (l.map f).mergeSort s = (l.mergeSort r).map f :=
  (List.map_mergeSort fun a _ b _ => (blind a b).symm).symm

theorem mapM_map_except {α β γ ε : Type} (f : α → Except ε β) (g : β → γ) (l : List α) :
    l.mapM (fun a => (f a).map g) = (l.mapM f).map (List.map g) := by
  induction l with
  | nil => rfl
  | cons a l ih =>
    rw [List.mapM_cons, List.mapM_cons, ih]
    cases f a with
    | error e => rfl
    | ok b => cases l.mapM f <;> rfl

/-! ### The store in memory -/

namespace MemoryStore

variable (t : MemoryStore)

theorem findOrganization_redacted (id : String) :
    t.redacted.findOrganization id = (t.findOrganization id).map Organization.redacted :=
  find?_map_of_blind (fun _ => rfl) t.organizations

theorem findOrganizationNamed_redacted (name : String) :
    t.redacted.findOrganizationNamed name =
      (t.findOrganizationNamed name).map Organization.redacted :=
  find?_map_of_blind (fun _ => rfl) t.organizations

theorem enrollment_redacted (r : DeviceRecord) :
    t.redacted.enrollment r = (t.enrollment r).map Enrollment.redacted := by
  rw [enrollment, enrollment, findOrganization_redacted]
  cases t.findOrganization r.organizationId <;> rfl

end MemoryStore

/-! ### The database -/

namespace Database

variable (t : Database)

theorem organizationRows_redacted :
    t.redacted.organizationRows = t.organizationRows.map (List.map Organization.redacted) := by
  rw [organizationRows, organizationRows, redacted]
  cases t.organizations <;> rfl

theorem joined_redacted : t.redacted.joined = t.joined.map (List.map redactOwner) := by
  rw [joined, joined, organizationRows_redacted]
  show t.deviceRows >>= _ = _
  cases t.deviceRows with
  | error e => rfl
  | ok rows =>
  cases t.organizationRows with
  | error e => rfl
  | ok organizations =>
    refine congrArg Except.ok ?_
    rw [List.map_filterMap]
    refine List.filterMap_congr fun r _ => ?_
    rw [find?_map_of_blind (q := (·.id == r.organizationId)) (fun _ => rfl), Option.map_map,
      Option.map_map]
    rfl

end Database

theorem DeviceRow.enrollment_redacted (r : DeviceRow) (o : Organization) :
    r.enrollment o.redacted = (r.enrollment o).map Enrollment.redacted := by
  rw [enrollment, enrollment]
  cases Status.ofCode? r.statusCode <;> rfl

/-! ### Reads -/

namespace Store

variable (s : Store)

theorem getOrganization_redacted (id : String) :
    s.redacted.getOrganization id = (s.getOrganization id).map Organization.redacted := by
  cases s with
  | memory t =>
    show t.redacted.getOrganization id = (t.getOrganization id).map _
    rw [MemoryStore.getOrganization, MemoryStore.getOrganization,
      MemoryStore.findOrganization_redacted]
    cases t.findOrganization id <;> rfl
  | database t =>
    show t.redacted.getOrganization id = (t.getOrganization id).map _
    rw [Database.getOrganization, Database.getOrganization, Database.organizationRows_redacted]
    cases t.organizationRows with
    | error e => rfl
    | ok organizations =>
      simp only [Except.map, bind, Except.bind]
      rw [find?_map_of_blind (q := (·.id == id)) fun _ => rfl]
      cases organizations.find? (·.id == id) <;> rfl

theorem getOrganizationByName_redacted (name : String) :
    s.redacted.getOrganizationByName name =
      (s.getOrganizationByName name).map Organization.redacted := by
  cases s with
  | memory t =>
    show t.redacted.getOrganizationByName name = (t.getOrganizationByName name).map _
    rw [MemoryStore.getOrganizationByName, MemoryStore.getOrganizationByName,
      MemoryStore.findOrganizationNamed_redacted]
    cases t.findOrganizationNamed name <;> rfl
  | database t =>
    show t.redacted.getOrganizationByName name = (t.getOrganizationByName name).map _
    rw [Database.getOrganizationByName, Database.getOrganizationByName,
      Database.organizationRows_redacted]
    cases t.organizationRows with
    | error e => rfl
    | ok organizations =>
      simp only [Except.map, bind, Except.bind]
      rw [find?_map_of_blind (q := (·.name == name)) fun _ => rfl]
      cases organizations.find? (·.name == name) <;> rfl

theorem listOrganizations_redacted :
    s.redacted.listOrganizations = s.listOrganizations.map (List.map Organization.redacted) := by
  have sorted (l : List Organization) :
      (l.map Organization.redacted).mergeSort (fun a b => a.name ≤ b.name) =
        (l.mergeSort fun a b => a.name ≤ b.name).map Organization.redacted :=
    mergeSort_map_of_blind (fun _ _ => rfl) l
  cases s with
  | memory t => exact congrArg Except.ok (sorted t.organizations)
  | database t =>
    show t.redacted.listOrganizations = t.listOrganizations.map _
    rw [Database.listOrganizations, Database.listOrganizations,
      Database.organizationRows_redacted]
    cases t.organizationRows with
    | error e => rfl
    | ok organizations => exact congrArg Except.ok (sorted organizations)

/-- A search in the joined rows finds the same row, with the owner without its key. -/
theorem joined_find?_redacted (t : Database) (failure : IdentityError) (p : DeviceRow → Bool) :
    (t.redacted.joined >>= fun joined => match joined.find? (fun x => p x.1) with
      | some (r, o) => r.enrollment o
      | none => throw failure) =
    (t.joined >>= fun joined => match joined.find? (fun x => p x.1) with
      | some (r, o) => r.enrollment o
      | none => throw failure).map Enrollment.redacted := by
  rw [Database.joined_redacted]
  cases t.joined with
  | error e => rfl
  | ok joined =>
    simp only [Except.map, bind, Except.bind]
    have found := find?_map_of_blind (f := redactOwner) (p := fun x => p x.1)
      (q := fun x => p x.1) (fun _ => rfl) joined
    rw [found]
    cases joined.find? fun x => p x.1 with
    | none => rfl
    | some pair => exact pair.1.enrollment_redacted pair.2

theorem getDeviceById_redacted (id : String) :
    s.redacted.getDeviceById id = (s.getDeviceById id).map Enrollment.redacted := by
  cases s with
  | memory t =>
    show t.deviceById id >>= t.redacted.enrollment = (t.deviceById id >>= t.enrollment).map _
    cases t.deviceById id with
    | error e => rfl
    | ok r => exact t.enrollment_redacted r
  | database t => exact joined_find?_redacted t (.deviceNotFound id) (·.id == id)

theorem getDevice_redacted (brand model serialNumber : String) :
    s.redacted.getDevice brand model serialNumber =
      (s.getDevice brand model serialNumber).map Enrollment.redacted := by
  cases s with
  | memory t =>
    show t.deviceByKey (naturalKey brand model serialNumber) >>= t.redacted.enrollment =
      (t.deviceByKey (naturalKey brand model serialNumber) >>= t.enrollment).map _
    cases t.deviceByKey (naturalKey brand model serialNumber) with
    | error e => rfl
    | ok r => exact t.enrollment_redacted r
  | database t =>
    exact joined_find?_redacted t (.deviceNotFound (naturalKey brand model serialNumber))
      (·.isOf brand model serialNumber)

theorem listDevices_redacted (organizationId : String) :
    s.redacted.listDevices organizationId =
      (s.listDevices organizationId).map (List.map Enrollment.redacted) := by
  cases s with
  | memory t =>
    show t.redacted.listDevices organizationId = (t.listDevices organizationId).map _
    rw [MemoryStore.listDevices, MemoryStore.listDevices, funext t.enrollment_redacted,
      mapM_map_except]
    show Except.map _ ((t.devices.filter _).mapM t.enrollment) >>= _ = _
    cases (t.devices.filter (·.organizationId == organizationId)).mapM t.enrollment with
    | error e => rfl
    | ok enrollments =>
      exact congrArg Except.ok (mergeSort_map_of_blind (fun _ _ => rfl) enrollments)
  | database t =>
    show t.redacted.listDevices organizationId = (t.listDevices organizationId).map _
    rw [Database.listDevices, Database.listDevices, Database.joined_redacted]
    cases t.joined with
    | error e => rfl
    | ok joined =>
      have filtered : (joined.map redactOwner).filter (·.1.organizationId == organizationId) =
          (joined.filter (·.1.organizationId == organizationId)).map redactOwner :=
        List.filter_map
      have sorted := mergeSort_map_of_blind (f := redactOwner) (r := fun a b => a.1.precedes b.1)
        (s := fun a b => a.1.precedes b.1) (fun _ _ => rfl)
        (joined.filter (·.1.organizationId == organizationId))
      have each : (fun x : DeviceRow × Organization => x.1.enrollment x.2) ∘ redactOwner =
          fun x => (x.1.enrollment x.2).map Enrollment.redacted :=
        funext fun x => x.1.enrollment_redacted x.2
      simp only [Except.map, bind, Except.bind]
      rw [filtered, sorted, List.mapM_map]
      exact (congrArg (fun f => List.mapM f _) each).trans (mapM_map_except _ _ _)

/-! ### Writes -/

/-- The outcome of a write seen without keys. -/
def blurred {α : Type} (view : α → α) :
    Except IdentityError (α × Store) → Except IdentityError (α × Store) :=
  Except.map (Prod.map view redacted)

theorem createOrganization_redacted (id : String) (new : NewOrganization) :
    blurred (fun a => a) (s.redacted.createOrganization id new) =
      blurred (fun a => a) (s.createOrganization id new) := by
  cases s with
  | memory t =>
    show blurred _ (answer .memory (t.redacted.createOrganization id new)) =
      blurred _ (answer .memory (t.createOrganization id new))
    rw [MemoryStore.createOrganization, MemoryStore.createOrganization,
      MemoryStore.findOrganizationNamed_redacted, Option.isSome_map]
    cases requireField "name" new.name with
    | error e => rfl
    | ok _ =>
    cases (t.findOrganizationNamed new.name).isSome with
    | true => rfl
    | false =>
      exact congrArg (fun l => Except.ok (id, Store.memory ⟨l, t.devices⟩))
        (map_redacted_append t.organizations _)
  | database t =>
    show blurred _ (answer .database (t.redacted.createOrganization id new)) =
      blurred _ (answer .database (t.createOrganization id new))
    rw [Database.createOrganization, Database.createOrganization,
      Database.organizationRows_redacted]
    cases requireField "name" new.name with
    | error e => rfl
    | ok _ =>
    cases t.organizationRows with
    | error e => rfl
    | ok organizations =>
      have taken : (organizations.map Organization.redacted).any
          (fun o => o.name == new.name || o.id == id) =
            organizations.any (fun o => o.name == new.name || o.id == id) := List.any_map
      simp only [bind, Except.bind, Except.map, taken]
      cases organizations.any fun o => o.name == new.name || o.id == id with
      | true => rfl
      | false =>
        exact congrArg (fun l => Except.ok (id, Store.database ⟨some l, t.stored, t.writes⟩))
          (map_redacted_append organizations _)

theorem createDevice_redacted (id : String) (new : NewDevice) :
    blurred (fun a => a) (s.redacted.createDevice id new) =
      blurred (fun a => a) (s.createDevice id new) := by
  cases s with
  | memory t =>
    show blurred _ (answer .memory (t.redacted.createDevice id new)) =
      blurred _ (answer .memory (t.createDevice id new))
    have keys : t.redacted.findDeviceKeyed new.naturalKey = t.findDeviceKeyed new.naturalKey := rfl
    have ids : t.redacted.findDevice id = t.findDevice id := rfl
    rw [MemoryStore.createDevice, MemoryStore.createDevice, MemoryStore.findOrganization_redacted,
      Option.isNone_map, keys, ids]
    cases new.check with
    | error e => rfl
    | ok _ =>
    cases (t.findOrganization new.organizationId).isNone with
    | true => rfl
    | false =>
    cases (t.findDeviceKeyed new.naturalKey).isSome with
    | true => rfl
    | false =>
    cases (t.findDevice id).isSome with
    | true => rfl
    | false =>
      exact congrArg (fun l => Except.ok (id, Store.memory ⟨l, _⟩))
        (congrArg MemoryStore.organizations t.redacted_redacted)
  | database t =>
    show blurred _ (answer .database (t.redacted.createDevice id new)) =
      blurred _ (answer .database (t.createDevice id new))
    have devices : t.redacted.deviceRows = t.deviceRows := rfl
    rw [Database.createDevice, Database.createDevice, Database.organizationRows_redacted, devices]
    cases new.check with
    | error e => rfl
    | ok _ =>
    cases t.organizationRows with
    | error e => rfl
    | ok organizations =>
      have owned : (organizations.map Organization.redacted).any (·.id == new.organizationId) =
          organizations.any (·.id == new.organizationId) := List.any_map
      simp only [bind, Except.bind, Except.map, owned]
      cases organizations.any (·.id == new.organizationId) with
      | false => rfl
      | true =>
      cases t.deviceRows with
      | error e => rfl
      | ok rows =>
      simp only
      cases rows.any (·.isOf new.brand new.model new.serialNumber) with
      | true => rfl
      | false =>
      cases rows.any (·.id == id) with
      | true => rfl
      | false =>
        exact congrArg (fun t => Except.ok (id, Store.database t)) (t.insert _).redacted_redacted

theorem updateDeviceStatus_redacted (id : String) (update : StatusUpdate) :
    blurred (fun a => a) (s.redacted.updateDeviceStatus id update) =
      blurred (fun a => a) (s.updateDeviceStatus id update) := by
  cases s with
  | memory t =>
    show blurred _ (done .memory (t.redacted.updateDeviceStatus id update)) =
      blurred _ (done .memory (t.updateDeviceStatus id update))
    have records : t.redacted.deviceById id = t.deviceById id := rfl
    rw [MemoryStore.updateDeviceStatus, MemoryStore.updateDeviceStatus, records]
    cases t.deviceById id with
    | error e => rfl
    | ok r =>
      simp only [bind, Except.bind]
      split
      · rfl
      · exact congrArg (fun t => Except.ok ((), Store.memory t)) (t.replace _).redacted_redacted
  | database t =>
    show blurred _ (done .database (t.redacted.updateDeviceStatus id update)) =
      blurred _ (done .database (t.updateDeviceStatus id update))
    have devices : t.redacted.deviceRows = t.deviceRows := rfl
    rw [Database.updateDeviceStatus, Database.updateDeviceStatus, devices]
    cases t.deviceRows with
    | error e => rfl
    | ok rows =>
      simp only [bind, Except.bind]
      cases rows.find? (·.id == id) with
      | none => rfl
      | some r =>
        simp only
        split
        · rfl
        · exact congrArg (fun t => Except.ok ((), Store.database t)) (t.redacted_replace_redacted _)

theorem updateDeviceData_redacted (id deviceData : String) :
    blurred (fun a => a) (s.redacted.updateDeviceData id deviceData) =
      blurred (fun a => a) (s.updateDeviceData id deviceData) := by
  cases s with
  | memory t =>
    show blurred _ (done .memory (t.redacted.updateDeviceData id deviceData)) =
      blurred _ (done .memory (t.updateDeviceData id deviceData))
    have records : t.redacted.deviceById id = t.deviceById id := rfl
    rw [MemoryStore.updateDeviceData, MemoryStore.updateDeviceData, records]
    cases t.deviceById id with
    | error e => rfl
    | ok r =>
      exact congrArg (fun t => Except.ok ((), Store.memory t)) (t.replace _).redacted_redacted
  | database t =>
    show blurred _ (done .database (t.redacted.updateDeviceData id deviceData)) =
      blurred _ (done .database (t.updateDeviceData id deviceData))
    have devices : t.redacted.deviceRows = t.deviceRows := rfl
    rw [Database.updateDeviceData, Database.updateDeviceData, devices]
    cases t.deviceRows with
    | error e => rfl
    | ok rows =>
      simp only [bind, Except.bind]
      cases rows.find? (·.id == id) with
      | none => rfl
      | some r =>
        exact congrArg (fun t => Except.ok ((), Store.database t)) (t.redacted_replace_redacted _)

theorem enrollDevice_redacted (request : EnrollmentRequest) :
    blurred Enrollment.redacted (s.redacted.enrollDevice request) =
      blurred Enrollment.redacted (s.enrollDevice request) := by
  cases s with
  | memory t =>
    show blurred _ (answer .memory (t.redacted.enrollDevice request)) =
      blurred _ (answer .memory (t.enrollDevice request))
    have records : t.redacted.deviceByKey request.naturalKey = t.deviceByKey request.naturalKey :=
      rfl
    rw [MemoryStore.enrollDevice, MemoryStore.enrollDevice, records]
    cases t.deviceByKey request.naturalKey with
    | error e => rfl
    | ok r =>
      simp only [bind, Except.bind]
      by_cases waiting : r.status ≠ .waiting
      · rw [if_pos waiting, if_pos waiting]
        rfl
      · have replaced (r : DeviceRecord) : (t.redacted.replace r).enrollment r =
            ((t.replace r).enrollment r).map Enrollment.redacted :=
          (t.replace r).enrollment_redacted r
        rw [if_neg waiting, if_neg waiting, replaced]
        generalize DeviceRecord.mk _ _ _ _ _ _ = enrolled
        cases (t.replace enrolled).enrollment enrolled with
        | error e => rfl
        | ok e =>
          exact congrArg (fun t => Except.ok (e.redacted, Store.memory t))
            (t.replace enrolled).redacted_redacted
  | database t =>
    show blurred _ (answer .database (t.redacted.enrollDevice request)) =
      blurred _ (answer .database (t.enrollDevice request))
    rw [Database.enrollDevice, Database.enrollDevice, Database.joined_redacted]
    cases t.joined with
    | error e => rfl
    | ok joined =>
      have found := find?_map_of_blind (f := redactOwner)
        (p := fun x => x.1.isOf request.brand request.model request.serialNumber)
        (q := fun x => x.1.isOf request.brand request.model request.serialNumber)
        (fun _ => rfl) joined
      simp only [bind, Except.bind, Except.map, found]
      cases joined.find? fun x => x.1.isOf request.brand request.model request.serialNumber with
      | none => rfl
      | some pair =>
        obtain ⟨r, o⟩ := pair
        simp only [Option.map_some, redactOwner, DeviceRow.enrollment_redacted]
        cases r.enrollment o with
        | error e => rfl
        | ok current =>
          have same : current.redacted.status = current.status := rfl
          simp only [Except.map, same]
          by_cases waiting : current.status ≠ .waiting
          · rw [if_pos waiting, if_pos waiting]
            rfl
          · rw [if_neg waiting, if_neg waiting]
            exact congrArg (fun t => Except.ok (_, Store.database t))
              (t.redacted_replace_redacted _)

end Store

/-! ### All calls -/

/-- What a call gives, without the keys of organizations. -/
def Answer.redacted : Answer → Answer
  | .created id => .created id
  | .organization o => .organization o.redacted
  | .organizations listed => .organizations (listed.map Organization.redacted)
  | .enrollment e => .enrollment e.redacted
  | .enrollments listed => .enrollments (listed.map Enrollment.redacted)
  | .done => .done

/-- Two answers, each with the store that it leaves, are the same without keys. -/
structure SameRedacted (x y : Except IdentityError Answer × Store) : Prop where
  answer_eq : x.1.map Answer.redacted = y.1.map Answer.redacted
  store_eq : x.2.redacted = y.2.redacted

theorem Store.redacted_redacted (s : Store) : s.redacted.redacted = s.redacted := by
  cases s with
  | memory t => exact congrArg Store.memory t.redacted_redacted
  | database t => exact congrArg Store.database t.redacted_redacted

namespace SameRedacted

variable {α : Type} {blank : α → α} {toAnswer : α → Answer}

theorem read (s : Store) {x y : Except IdentityError α} (same : x = y.map blank)
    (hidden : ∀ a, (toAnswer (blank a)).redacted = (toAnswer a).redacted) :
    SameRedacted (x.map toAnswer, s.redacted) (y.map toAnswer, s) := by
  refine ⟨?_, s.redacted_redacted⟩
  rw [same]
  cases y with
  | error e => rfl
  | ok a => exact congrArg Except.ok (hidden a)

theorem settle (s : Store) {x y : Except IdentityError (α × Store)}
    (same : Store.blurred blank x = Store.blurred blank y)
    (hidden : ∀ a, (toAnswer (blank a)).redacted = (toAnswer a).redacted) :
    SameRedacted (FleetIdentity.settle s.redacted toAnswer x)
      (FleetIdentity.settle s toAnswer y) := by
  rcases map_eq_map_cases same with ⟨e, rfl, rfl⟩ | ⟨⟨a, s'⟩, ⟨b, t'⟩, rfl, rfl, eq⟩
  · exact ⟨rfl, s.redacted_redacted⟩
  · obtain ⟨answers, stores⟩ := Prod.mk.inj eq
    refine ⟨congrArg Except.ok ?_, stores⟩
    rw [← hidden a, ← hidden b]
    exact congrArg (fun a => (toAnswer a).redacted) answers

end SameRedacted

/-- No call of a store depends on the keys of organizations, but for the keys in its answer. -/
theorem Store.perform_redacted (s : Store) (call : Call) :
    SameRedacted (s.redacted.perform call) (s.perform call) := by
  cases call with
  | createOrganization id new =>
    exact .settle s (s.createOrganization_redacted id new) fun _ => rfl
  | getOrganization id => exact .read s (s.getOrganization_redacted id) fun _ => rfl
  | getOrganizationByName name =>
    exact .read s (s.getOrganizationByName_redacted name) fun _ => rfl
  | listOrganizations =>
    refine .read s s.listOrganizations_redacted fun listed => ?_
    exact congrArg Answer.organizations (map_redacted_redacted listed)
  | createDevice id new => exact .settle s (s.createDevice_redacted id new) fun _ => rfl
  | getDevice brand model serialNumber =>
    exact .read s (s.getDevice_redacted brand model serialNumber) fun _ => rfl
  | getDeviceById id => exact .read s (s.getDeviceById_redacted id) fun _ => rfl
  | enrollDevice request => exact .settle s (s.enrollDevice_redacted request) fun _ => rfl
  | updateDeviceStatus id update =>
    exact .settle s (s.updateDeviceStatus_redacted id update) fun _ => rfl
  | updateDeviceData id deviceData =>
    exact .settle s (s.updateDeviceData_redacted id deviceData) fun _ => rfl
  | listDevices organizationId =>
    refine .read s (s.listDevices_redacted organizationId) fun listed => ?_
    refine congrArg Answer.enrollments ?_
    rw [List.map_map]
    rfl

end FleetIdentity
