import FleetIdentity.Proofs.Store.Tables
import FleetIdentity.Proofs.Store.Writes

/-!
# Both stores answer alike

A store in memory and a database that get the same calls give the same outcomes as long as no brand
and no model contains a slash. They are kept in step: after each call they hold the same
organizations and the same rows in the same order, and then every read, every check of a write and
every change is the same for both.

Only the order in which the devices of an organization are listed and the text of a failure may
differ. Slashes are excluded because the store in memory joins the three texts that name a device;
the serial number comes last and may contain any.
-/

namespace FleetIdentity

/-- Neither text contains a slash. -/
def SlashFree (brand model : String) : Prop :=
  '/' ∉ brand.toList ∧ '/' ∉ model.toList

/-- The brand and the model that the call brings, if any, are without slashes. -/
def Call.SlashFree : Call → Prop
  | .createDevice _ new => FleetIdentity.SlashFree new.brand new.model
  | .getDevice brand model _ => FleetIdentity.SlashFree brand model
  | .enrollDevice request => FleetIdentity.SlashFree request.brand request.model
  | _ => True

/-- Equal answers, lists of devices in any order, or failures with the same code. -/
def SameOutcome : Except IdentityError Answer → Except IdentityError Answer → Prop
  | .ok (.enrollments listed), .ok (.enrollments others) => listed.Perm others
  | .ok a, .ok b => a = b
  | .error e, .error f => e.code = f.code
  | _, _ => False

theorem sameOutcome_of_eq {x y : Except IdentityError Answer} (h : x = y) : SameOutcome x y := by
  subst h
  cases x with
  | error e => exact rfl
  | ok a =>
    cases a with
    | enrollments listed => exact List.Perm.refl listed
    | _ => exact rfl

theorem not_sameOutcome_ok_error (a : Answer) (e : IdentityError) :
    ¬ SameOutcome (.ok a) (.error e) := by
  cases a <;> exact id

/-! ### Keys without slashes -/

theorem eq_of_append_slash {a b x y : List Char} (ha : '/' ∉ a) (hb : '/' ∉ b)
    (h : a ++ '/' :: x = b ++ '/' :: y) : a = b ∧ x = y := by
  induction a generalizing b with
  | nil =>
    cases b with
    | nil => exact ⟨rfl, (List.cons.inj h).2⟩
    | cons c b =>
      have head : '/' = c := (List.cons.inj h).1
      exact absurd (head ▸ List.mem_cons_self) hb
  | cons c a ih =>
    cases b with
    | nil =>
      have head : c = '/' := (List.cons.inj h).1
      exact absurd (head ▸ List.mem_cons_self) ha
    | cons d b =>
      obtain ⟨rfl, tail⟩ := List.cons.inj h
      obtain ⟨rfl, same⟩ := ih (fun mem => ha (List.mem_cons_of_mem _ mem))
        (fun mem => hb (List.mem_cons_of_mem _ mem)) tail
      exact ⟨rfl, same⟩

theorem toList_naturalKey (brand model serialNumber : String) :
    (naturalKey brand model serialNumber).toList =
      brand.toList ++ '/' :: (model.toList ++ '/' :: serialNumber.toList) := by
  show (brand ++ "/" ++ model ++ "/" ++ serialNumber).toList = _
  simp [String.toList_append]

theorem naturalKey_inj {brand model serialNumber brand' model' serialNumber' : String}
    (h : SlashFree brand model) (h' : SlashFree brand' model')
    (same : naturalKey brand model serialNumber = naturalKey brand' model' serialNumber') :
    brand = brand' ∧ model = model' ∧ serialNumber = serialNumber' := by
  have texts := congrArg String.toList same
  rw [toList_naturalKey, toList_naturalKey] at texts
  obtain ⟨brands, texts⟩ := eq_of_append_slash h.1 h'.1 texts
  obtain ⟨models, serialNumbers⟩ := eq_of_append_slash h.2 h'.2 texts
  exact ⟨String.toList_injective brands, String.toList_injective models,
    String.toList_injective serialNumbers⟩

theorem keyOf_eq_iff {kind : StoreKind} {r : DeviceRow} {brand model serialNumber : String}
    (stored : SlashFree r.device.brand r.device.model) (asked : SlashFree brand model) :
    kind.keyOf r = kind.lookupKey brand model serialNumber ↔
      r.isOf brand model serialNumber = true := by
  cases kind with
  | database => exact DeviceRow.isOf_iff.symm
  | memory =>
    constructor
    · intro same
      obtain ⟨brands, models, serialNumbers⟩ := naturalKey_inj stored asked (List.cons.inj same).1
      exact DeviceRow.isOf_iff.2 (by rw [StoreKind.keyOf, brands, models, serialNumbers])
    · intro same
      obtain ⟨brands, models, serialNumbers⟩ : r.device.brand = brand ∧ r.device.model = model ∧
          r.device.serialNumber = serialNumber := by
        simpa [DeviceRow.isOf, and_assoc] using same
      rw [StoreKind.keyOf, brands, models, serialNumbers]

namespace Store

/-- Two sound stores that hold the same, with no slash in a brand or a model. -/
structure Twins (a b : Store) : Prop where
  left : a.Sound
  right : b.Sound
  organizations_eq : a.organizations = b.organizations
  rows_eq : a.rows = b.rows
  slashFree : ∀ r ∈ a.rows, SlashFree r.device.brand r.device.model

variable {a b a' b' : Store} {brand model serialNumber : String}

/-! ### Reads -/

theorem Twins.enrollment? (h : Twins a b) : a.enrollment? = b.enrollment? := by
  funext r
  rw [Store.enrollment?, Store.enrollment?, h.organizations_eq]

theorem Twins.readRow (h : Twins a b) {failure : IdentityError} {p q : DeviceRow → Bool}
    (same : ∀ r ∈ a.rows, p r = q r) : a.readRow failure p = b.readRow failure q := by
  rw [Store.readRow, Store.readRow, List.find?_congr same, h.enrollment?, h.rows_eq]

theorem Twins.key_iff (h : Twins a b) (asked : SlashFree brand model) {r : DeviceRow}
    (mem : r ∈ a.rows) : a.kind.keyOf r = a.kind.lookupKey brand model serialNumber ↔
      b.kind.keyOf r = b.kind.lookupKey brand model serialNumber := by
  rw [keyOf_eq_iff (h.slashFree r mem) asked, keyOf_eq_iff (h.slashFree r mem) asked]

theorem Twins.key_beq (h : Twins a b) (asked : SlashFree brand model) {r : DeviceRow}
    (mem : r ∈ a.rows) : (a.kind.keyOf r == a.kind.lookupKey brand model serialNumber) =
      (b.kind.keyOf r == b.kind.lookupKey brand model serialNumber) := by
  rw [Bool.eq_iff_iff, beq_iff_eq, beq_iff_eq]
  exact h.key_iff asked mem

theorem Twins.getDeviceById (h : Twins a b) (id : String) :
    a.getDeviceById id = b.getDeviceById id := by
  rw [getDeviceById_eq h.left, getDeviceById_eq h.right]
  exact h.readRow fun _ _ => rfl

theorem Twins.getDevice (h : Twins a b) (asked : SlashFree brand model) :
    a.getDevice brand model serialNumber = b.getDevice brand model serialNumber := by
  rw [getDevice_eq h.left, getDevice_eq h.right]
  exact h.readRow fun r mem => h.key_beq asked mem

theorem Twins.listDevices (h : Twins a b) (organizationId : String) :
    SameOutcome ((a.listDevices organizationId).map .enrollments)
      ((b.listDevices organizationId).map .enrollments) := by
  obtain ⟨listed, read, perm⟩ := listDevices_perm h.left organizationId
  obtain ⟨others, read', perm'⟩ := listDevices_perm h.right organizationId
  have same : a.enrollments = b.enrollments := by
    rw [enrollments, enrollments, h.enrollment?, h.rows_eq]
  rw [read, read']
  exact perm.trans (same ▸ perm'.symm)

/-! ### Writes -/

theorem Twins.settle {α : Type} (h : Twins a b) {toAnswer : α → Answer}
    {x y : Except IdentityError (α × Store)}
    (answers : SameOutcome ((x.map (·.1)).map toAnswer) ((y.map (·.1)).map toAnswer))
    (stores : ∀ u v a' b', x = .ok (u, a') → y = .ok (v, b') → Twins a' b') :
    SameOutcome (FleetIdentity.settle a toAnswer x).1 (FleetIdentity.settle b toAnswer y).1 ∧
      Twins (FleetIdentity.settle a toAnswer x).2 (FleetIdentity.settle b toAnswer y).2 := by
  rw [settle_fst, settle_fst]
  refine ⟨answers, ?_⟩
  cases x with
  | error e =>
    cases y with
    | error f => exact h
    | ok v => exact answers.elim
  | ok u =>
    cases y with
    | error f => exact (not_sameOutcome_ok_error _ f answers).elim
    | ok v => exact stores u.1 v.1 u.2 v.2 rfl rfl

/-- A row that is replaced in both keeps its brand and its model. -/
theorem Twins.replace (h : Twins a b) (left : a'.Sound) (right : b'.Sound) {old new : DeviceRow}
    (mem : old ∈ a.rows) (brand_eq : new.device.brand = old.device.brand)
    (model_eq : new.device.model = old.device.model)
    (becomes : a.Becomes a' a.organizations (DeviceRow.replaceIn a.rows new))
    (becomes' : b.Becomes b' b.organizations (DeviceRow.replaceIn b.rows new)) : Twins a' b' := by
  refine ⟨left, right, ?_, ?_, ?_⟩
  · rw [becomes.organizations_eq, becomes'.organizations_eq, h.organizations_eq]
  · rw [becomes.rows_eq, becomes'.rows_eq, h.rows_eq]
  · rw [becomes.rows_eq]
    intro r hr
    rcases DeviceRow.mem_replaceIn hr with rfl | ⟨hr, _⟩
    · rw [brand_eq, model_eq]
      exact h.slashFree old mem
    · exact h.slashFree r hr

theorem Twins.createOrganization (h : Twins a b) {id : String} {new : NewOrganization}
    {u v : String} (made : a.createOrganization id new = .ok (u, a'))
    (made' : b.createOrganization id new = .ok (v, b')) : Twins a' b' := by
  obtain ⟨_, _, _, becomes⟩ := createOrganization_ok made
  obtain ⟨_, _, _, becomes'⟩ := createOrganization_ok made'
  refine ⟨h.left.write (.createOrganization made), h.right.write (.createOrganization made'),
    ?_, ?_, ?_⟩
  · rw [becomes.organizations_eq, becomes'.organizations_eq, h.organizations_eq]
  · rw [becomes.rows_eq, becomes'.rows_eq, h.rows_eq]
  · rw [becomes.rows_eq]
    exact h.slashFree

theorem Twins.createDevice (h : Twins a b) {id : String} {new : NewDevice}
    (asked : SlashFree new.brand new.model) {u v : String}
    (made : a.createDevice id new = .ok (u, a'))
    (made' : b.createDevice id new = .ok (v, b')) : Twins a' b' := by
  obtain ⟨_, _, _, _, becomes⟩ := createDevice_ok made
  obtain ⟨_, _, _, _, becomes'⟩ := createDevice_ok made'
  refine ⟨h.left.write (.createDevice made), h.right.write (.createDevice made'), ?_, ?_, ?_⟩
  · rw [becomes.organizations_eq, becomes'.organizations_eq, h.organizations_eq]
  · rw [becomes.rows_eq, becomes'.rows_eq, h.rows_eq]
  · rw [becomes.rows_eq]
    intro r hr
    rcases List.mem_append.1 hr with hr | hr
    · exact h.slashFree r hr
    · obtain rfl := List.mem_singleton.1 hr
      exact asked

theorem Twins.enrollDevice (h : Twins a b) {request : EnrollmentRequest}
    (asked : SlashFree request.brand request.model) {u v : Enrollment}
    (made : a.enrollDevice request = .ok (u, a'))
    (made' : b.enrollDevice request = .ok (v, b')) : Twins a' b' := by
  obtain ⟨r, mem, _, _, _, key, _, _, becomes⟩ := enrollDevice_ok made
  obtain ⟨r', mem', _, _, _, key', _, _, becomes'⟩ := enrollDevice_ok made'
  rw [← h.rows_eq] at mem'
  have same : r = r' :=
    List.inj_on_of_nodup_map h.left.keys mem mem' (key.trans ((h.key_iff asked mem').2 key').symm)
  subst same
  refine h.replace (h.left.write (.enrollDevice made)) (h.right.write (.enrollDevice made')) mem
    ?_ ?_ becomes becomes'
  · rfl
  · rfl

theorem Twins.updateDeviceStatus (h : Twins a b) {id : String} {update : StatusUpdate}
    (made : a.updateDeviceStatus id update = .ok ((), a'))
    (made' : b.updateDeviceStatus id update = .ok ((), b')) : Twins a' b' := by
  obtain ⟨r, mem, same_id, _, becomes⟩ := updateDeviceStatus_ok made
  obtain ⟨r', mem', same_id', _, becomes'⟩ := updateDeviceStatus_ok made'
  rw [← h.rows_eq] at mem'
  obtain rfl := DeviceRow.eq_of_id h.left.ids mem mem' (same_id.trans same_id'.symm)
  refine h.replace (h.left.write (.updateDeviceStatus made))
    (h.right.write (.updateDeviceStatus made')) mem ?_ ?_ becomes becomes'
  · rfl
  · rfl

theorem Twins.updateDeviceData (h : Twins a b) {id deviceData : String}
    (made : a.updateDeviceData id deviceData = .ok ((), a'))
    (made' : b.updateDeviceData id deviceData = .ok ((), b')) : Twins a' b' := by
  obtain ⟨r, mem, same_id, becomes⟩ := updateDeviceData_ok made
  obtain ⟨r', mem', same_id', becomes'⟩ := updateDeviceData_ok made'
  rw [← h.rows_eq] at mem'
  obtain rfl := DeviceRow.eq_of_id h.left.ids mem mem' (same_id.trans same_id'.symm)
  refine h.replace (h.left.write (.updateDeviceData made))
    (h.right.write (.updateDeviceData made')) mem ?_ ?_ becomes becomes'
  · rfl
  · rfl

/-! ### The answers of writes -/

theorem Twins.createOrganization_answer (h : Twins a b) {id : String} {new : NewOrganization}
    (fresh : ∀ o ∈ a.organizations, o.id ≠ id) :
    (a.createOrganization id new).map (·.1) = (b.createOrganization id new).map (·.1) := by
  rw [Store.createOrganization_answer h.left.hasTables fresh,
    Store.createOrganization_answer h.right.hasTables (h.organizations_eq ▸ fresh),
    h.organizations_eq]

theorem Twins.createDevice_answer (h : Twins a b) (id : String) {new : NewDevice}
    (asked : SlashFree new.brand new.model) :
    (a.createDevice id new).map (·.1) = (b.createDevice id new).map (·.1) := by
  have taken : (a.rows.any fun r => a.kind.keyOf r ==
      a.kind.lookupKey new.brand new.model new.serialNumber) =
      b.rows.any fun r => b.kind.keyOf r ==
        b.kind.lookupKey new.brand new.model new.serialNumber := by
    rw [← h.rows_eq, Bool.eq_iff_iff, List.any_eq_true, List.any_eq_true]
    refine exists_congr fun r => and_congr_right fun mem => ?_
    rw [h.key_beq asked mem]
  rw [Store.createDevice_answer h.left.hasTables, Store.createDevice_answer h.right.hasTables,
    taken, h.organizations_eq, h.rows_eq]

theorem Twins.enrollDevice_answer (h : Twins a b) {request : EnrollmentRequest}
    (asked : SlashFree request.brand request.model) :
    (a.enrollDevice request).map (·.1) = (b.enrollDevice request).map (·.1) := by
  rw [Store.enrollDevice_answer h.left, Store.enrollDevice_answer h.right, h.getDevice asked]

theorem Twins.updateDeviceData_answer (h : Twins a b) (id deviceData : String) :
    (a.updateDeviceData id deviceData).map (·.1) =
      (b.updateDeviceData id deviceData).map (·.1) := by
  rw [Store.updateDeviceData_answer h.left, Store.updateDeviceData_answer h.right,
    h.getDeviceById id]

/-- Here the texts of the refusals differ. -/
theorem Twins.updateDeviceStatus_answer (h : Twins a b) (id : String) (update : StatusUpdate) :
    SameOutcome (((a.updateDeviceStatus id update).map (·.1)).map fun _ => .done)
      (((b.updateDeviceStatus id update).map (·.1)).map fun _ => .done) := by
  obtain ⟨text, answer⟩ := Store.updateDeviceStatus_answer h.left id update
  obtain ⟨text', answer'⟩ := Store.updateDeviceStatus_answer h.right id update
  rw [answer, answer', h.getDeviceById id]
  cases b.getDeviceById id with
  | error e => exact rfl
  | ok current =>
    show SameOutcome (Except.map _ (if current.status ≠ update.expected then _ else _))
      (Except.map _ (if current.status ≠ update.expected then _ else _))
    split
    · exact rfl
    · exact rfl

/-! ### Calls in step -/

theorem Twins.perform (h : Twins a b) {call : Call} (asked : call.SlashFree)
    (fresh : call.FreshFor a.organizations) : SameOutcome (a.perform call).1 (b.perform call).1 ∧
      Twins (a.perform call).2 (b.perform call).2 := by
  cases call with
  | createOrganization id new =>
    refine h.settle (sameOutcome_of_eq ?_) fun _ _ _ _ => h.createOrganization
    rw [h.createOrganization_answer fresh]
  | getOrganization id =>
    refine ⟨sameOutcome_of_eq ?_, h⟩
    rw [Store.perform, Store.perform, getOrganization_eq h.left.hasTables,
      getOrganization_eq h.right.hasTables, h.organizations_eq]
  | getOrganizationByName name =>
    refine ⟨sameOutcome_of_eq ?_, h⟩
    rw [Store.perform, Store.perform, getOrganizationByName_eq h.left.hasTables,
      getOrganizationByName_eq h.right.hasTables, h.organizations_eq]
  | listOrganizations =>
    refine ⟨sameOutcome_of_eq ?_, h⟩
    rw [Store.perform, Store.perform, listOrganizations_eq h.left.hasTables,
      listOrganizations_eq h.right.hasTables, h.organizations_eq]
  | createDevice id new =>
    refine h.settle (sameOutcome_of_eq ?_) fun _ _ _ _ => h.createDevice asked
    rw [h.createDevice_answer id asked]
  | getDevice brand model serialNumber =>
    refine ⟨sameOutcome_of_eq ?_, h⟩
    rw [Store.perform, Store.perform, h.getDevice asked]
  | getDeviceById id =>
    refine ⟨sameOutcome_of_eq ?_, h⟩
    rw [Store.perform, Store.perform, h.getDeviceById id]
  | enrollDevice request =>
    refine h.settle (sameOutcome_of_eq ?_) fun _ _ _ _ => h.enrollDevice asked
    rw [h.enrollDevice_answer asked]
  | updateDeviceStatus id update =>
    exact h.settle (h.updateDeviceStatus_answer id update) fun _ _ _ _ => h.updateDeviceStatus
  | updateDeviceData id deviceData =>
    refine h.settle (sameOutcome_of_eq ?_) fun _ _ _ _ => h.updateDeviceData
    rw [h.updateDeviceData_answer id deviceData]
  | listDevices organizationId => exact ⟨h.listDevices organizationId, h⟩

theorem Twins.outcomes (h : Twins a b) {calls : List Call}
    (asked : ∀ call ∈ calls, call.SlashFree) (fresh : a.FreshRun calls) :
    List.Forall₂ SameOutcome (outcomes Store.perform a calls) (outcomes Store.perform b calls) := by
  induction calls generalizing a b with
  | nil => exact .nil
  | cons call calls ih =>
    obtain ⟨same, next⟩ := h.perform (asked call List.mem_cons_self) fresh.1
    exact .cons same (ih next (fun c mem => asked c (List.mem_cons_of_mem _ mem)) fresh.2)

theorem twins_empty : Twins (.memory .empty) (.database .empty) where
  left := sound_memory_empty
  right := sound_database_empty
  organizations_eq := rfl
  rows_eq := rfl
  slashFree := nofun

/-- From empty on, the tables of a store in memory answer calls as its two lists do, and calls
without slashes in a brand or a model are answered alike by a database. -/
theorem outcomes_alike (calls : List Call) (asked : ∀ call ∈ calls, call.SlashFree)
    (fresh : FreshRun (.memory .empty) calls) :
    outcomes MemoryTables.perform .empty calls = outcomes Store.perform (.memory .empty) calls ∧
      List.Forall₂ SameOutcome (outcomes Store.perform (.memory .empty) calls)
        (outcomes Store.perform (.database .empty) calls) :=
  ⟨represents_empty.outcomes sound_memory_empty ⟨.nil, .nil⟩ fresh,
    twins_empty.outcomes asked fresh⟩

/-- An organization and a device of it, looked up, listed and registered once more. -/
def acmeCalls : List Call :=
  [.createOrganization "o" ⟨"acme", "", "", ""⟩,
    .createDevice "d" ⟨"o", "b", "m", "s/1", ⟨"", "", "", ""⟩⟩,
    .getDevice "b" "m" "s/1", .listDevices "o",
    .createDevice "e" ⟨"o", "b", "m", "s/1", ⟨"", "", "", ""⟩⟩]

theorem outcomes_alike_acme :
    outcomes MemoryTables.perform .empty acmeCalls =
        outcomes Store.perform (.memory .empty) acmeCalls ∧
      List.Forall₂ SameOutcome (outcomes Store.perform (.memory .empty) acmeCalls)
        (outcomes Store.perform (.database .empty) acmeCalls) := by
  refine outcomes_alike acmeCalls ?_ ?_
  · simp [acmeCalls, Call.SlashFree, FleetIdentity.SlashFree]
  · exact ⟨nofun, trivial, trivial, trivial, trivial, trivial⟩

end Store

end FleetIdentity
