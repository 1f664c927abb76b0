import FleetIdentity.Proofs.Store.Statements

/-!
# One call and one device

A call is one of six steps on the rows of a store, and four of them concern one device. What a store
shows of a device, its status and its data, is read off the row with its id; so a step is known by
that row, and every other device is shown as before.
-/

namespace FleetIdentity

/-! ### What one call does to the rows -/

/-- Whether a call is made to register or to change a device. -/
def Call.changesDevices : Call → Bool
  | .createDevice _ _ | .enrollDevice _ | .updateDeviceStatus _ _ | .updateDeviceData _ _ => true
  | _ => false

/-- What a call with an outcome does to the rows of a store. -/
inductive CallStep (s s' : Store) : Call → Except IdentityError Answer → Prop where
  | failed {call : Call} {e : IdentityError} (same : s' = s) : CallStep s s' call (.error e)
  | apart {call : Call} {answer : Answer} (apart : call.changesDevices = false)
      (rows_eq : s'.rows = s.rows) : CallStep s s' call (.ok answer)
  | created {id : String} {new : NewDevice} (free : ∀ r ∈ s.rows, r.id ≠ id)
      (rows_eq : s'.rows = s.rows ++ [new.row id]) :
      CallStep s s' (.createDevice id new) (.ok (.created id))
  | enrolled {request : EnrollmentRequest} {e : Enrollment} (row : DeviceRow) (mem : row ∈ s.rows)
      (waiting : row.statusCode = Status.waiting.code) (id_eq : e.id = row.id)
      (rows_eq : s'.rows = DeviceRow.replaceIn s.rows (row.enrolled request)) :
      CallStep s s' (.enrollDevice request) (.ok (.enrollment e))
  | updated {update : StatusUpdate} (row : DeviceRow) (mem : row ∈ s.rows)
      (expected : row.statusCode = update.expected.code)
      (rows_eq : s'.rows = DeviceRow.replaceIn s.rows (row.updated update)) :
      CallStep s s' (.updateDeviceStatus row.id update) (.ok .done)
  | written {deviceData : String} (row : DeviceRow) (mem : row ∈ s.rows)
      (rows_eq : s'.rows = DeviceRow.replaceIn s.rows { row with deviceData }) :
      CallStep s s' (.updateDeviceData row.id deviceData) (.ok .done)

namespace Store

variable {s s' : Store} {id : String}

theorem callStep_settle {α : Type} {call : Call} {toAnswer : α → Answer}
    {outcome : Except IdentityError (α × Store)}
    (ok : ∀ a s', outcome = .ok (a, s') → CallStep s s' call (.ok (toAnswer a))) :
    CallStep s (settle s toAnswer outcome).2 call (settle s toAnswer outcome).1 := by
  cases outcome with
  | error e => exact .failed rfl
  | ok pair => exact ok pair.1 pair.2 rfl

theorem callStep_read {α : Type} {call : Call} {toAnswer : α → Answer}
    {outcome : Except IdentityError α} (apart : call.changesDevices = false) :
    CallStep s s call (outcome.map toAnswer) := by
  cases outcome with
  | error e => exact .failed rfl
  | ok a => exact .apart apart rfl

/-- Every call is one of the steps. -/
theorem callStep (s : Store) (call : Call) :
    CallStep s (s.perform call).2 call (s.perform call).1 := by
  cases call with
  | createOrganization id new =>
    refine callStep_settle fun _ _ made => ?_
    obtain ⟨_, _, _, becomes⟩ := createOrganization_ok made
    exact .apart rfl becomes.rows_eq
  | createDevice id new =>
    refine callStep_settle fun _ _ made => ?_
    obtain ⟨rfl, _, _, free, becomes⟩ := createDevice_ok made
    exact .created (fun r mem => (free r mem).1) becomes.rows_eq
  | enrollDevice request =>
    refine callStep_settle fun _ _ made => ?_
    obtain ⟨row, mem, _, _, _, _, waiting, shown, becomes⟩ := enrollDevice_ok made
    exact .enrolled row mem waiting (congrArg Enrollment.id shown) becomes.rows_eq
  | updateDeviceStatus id update =>
    refine callStep_settle fun _ _ made => ?_
    obtain ⟨row, mem, rfl, expected, becomes⟩ := updateDeviceStatus_ok made
    exact .updated row mem expected becomes.rows_eq
  | updateDeviceData id deviceData =>
    refine callStep_settle fun _ _ made => ?_
    obtain ⟨row, mem, rfl, becomes⟩ := updateDeviceData_ok made
    exact .written row mem becomes.rows_eq
  | getOrganization | getOrganizationByName | listOrganizations | getDevice | getDeviceById
  | listDevices => exact callStep_read rfl

/-! ### What a store shows of one device -/

/-- The row with an id. -/
def row? (s : Store) (id : String) : Option DeviceRow :=
  s.rows.find? (·.id == id)

/-- The status in which a store shows a device. -/
def statusOf (s : Store) (id : String) : Option Status :=
  (s.getDeviceById id).toOption.map (·.status)

/-- The data that a store shows of a device. -/
def dataOf (s : Store) (id : String) : Option String :=
  (s.getDeviceById id).toOption.map (·.deviceData)

theorem Sound.row?_of_mem (h : s.Sound) {r : DeviceRow} (mem : r ∈ s.rows) :
    s.row? r.id = some r :=
  find?_beq_of_mem h.ids mem

theorem row?_append {r : DeviceRow} (free : ∀ x ∈ s.rows, x.id ≠ r.id)
    (rows_eq : s'.rows = s.rows ++ [r]) (id : String) :
    s'.row? id = if r.id = id then some r else s.row? id := by
  rw [row?, row?, rows_eq, List.find?_append]
  split
  · next same =>
    have absent : s.rows.find? (·.id == id) = none :=
      List.find?_eq_none.2 fun x mem => by simpa [← same] using free x mem
    have hit : [r].find? (·.id == id) = some r := List.find?_cons_of_pos (beq_iff_eq.2 same)
    rw [absent, hit, Option.none_or]
  · next other => simp [other]

theorem row?_replaceIn {old r : DeviceRow} (mem : old ∈ s.rows) (id_eq : r.id = old.id)
    (rows_eq : s'.rows = DeviceRow.replaceIn s.rows r) (id : String) :
    s'.row? id = if r.id = id then some r else s.row? id := by
  have ids : ∀ x ∈ s.rows, ((·.id == id) ∘ fun other => if other.id = r.id then r else other) x =
      (x.id == id) := by
    intro x _
    show ((if x.id = r.id then r else x).id == id) = _
    split
    · next same => rw [same]
    · rfl
  rw [row?, rows_eq, DeviceRow.replaceIn, List.find?_map, List.find?_congr ids, ← row?]
  split
  · next same =>
    have there : (s.row? id).isSome :=
      List.find?_isSome.2 ⟨old, mem, beq_iff_eq.2 (id_eq.symm.trans same)⟩
    obtain ⟨x, found⟩ := Option.isSome_iff_exists.1 there
    have x_id : x.id = r.id := (mem_of_find?_beq found).2.trans same.symm
    rw [found, Option.map_some, if_pos x_id]
  · next other =>
    cases found : s.row? id with
    | none => rfl
    | some x =>
      have x_id : x.id ≠ r.id := fun same => other (same.symm.trans (mem_of_find?_beq found).2)
      rw [Option.map_some, if_neg x_id]

theorem Sound.toOption_getDeviceById (h : s.Sound) (id : String) :
    (s.getDeviceById id).toOption = (s.row? id).bind s.enrollment? := by
  rw [getDeviceById_eq h, readRow, row?]
  cases (s.rows.find? (·.id == id)).bind s.enrollment? <;> rfl

theorem Sound.statusOf_eq (h : s.Sound) (id : String) :
    s.statusOf id = (s.row? id).bind fun r => Status.ofCode? r.statusCode := by
  rw [statusOf, h.toOption_getDeviceById]
  cases found : s.row? id with
  | none => rfl
  | some r =>
    obtain ⟨e, shown⟩ := h.enrollment? (List.mem_of_find?_eq_some found)
    obtain ⟨o, status, _, code, rfl⟩ := enrollment?_eq_some_iff.1 shown
    rw [Option.bind_some, shown, Option.bind_some, Status.ofCode?_eq_some_iff.2 code]
    rfl

theorem Sound.dataOf_eq (h : s.Sound) (id : String) :
    s.dataOf id = (s.row? id).map (·.deviceData) := by
  rw [dataOf, h.toOption_getDeviceById]
  cases found : s.row? id with
  | none => rfl
  | some r =>
    obtain ⟨e, shown⟩ := h.enrollment? (List.mem_of_find?_eq_some found)
    obtain ⟨o, status, _, _, rfl⟩ := enrollment?_eq_some_iff.1 shown
    rw [Option.bind_some, shown]
    rfl

end Store

end FleetIdentity
