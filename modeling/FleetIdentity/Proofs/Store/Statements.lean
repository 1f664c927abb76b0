import FleetIdentity.Proofs.Store.Writes
import FleetIdentity.Proofs.Store.Calls
import FleetIdentity.Store.Statements

/-!
# Changes of a device in a database, statement by statement

A statement that is guarded by a status changes one row or none. Where ids are distinct the number
of changed rows and the look at the status that follows tell the cases apart that a look before the
change would: no such device, a device in another status, or a device that was changed. So the
statements of a call give the answer of the call as a whole and leave the database that it leaves.
-/

namespace FleetIdentity

namespace Statements

variable {α : Type} {t : Database} {rows : List DeviceRow} {selects : DeviceRow → Bool}
  {change : DeviceRow → DeviceRow}

/-! ### One statement -/

theorem update_eq (devices : t.devices = some rows) :
    update selects change t = (.ok (rows.countP selects), t.change selects change) := by
  rw [update, Database.deviceRows_eq_ok_iff.2 devices]

theorem update_none (devices : t.devices = some rows) (unselected : ∀ r ∈ rows, selects r = false) :
    update selects change t = (.ok 0, t) := by
  have count : rows.countP selects = 0 :=
    List.countP_eq_zero.2 fun r mem => Bool.eq_false_iff.1 (unselected r mem)
  rw [update_eq devices, count, Database.change_of_none devices unselected]

/-- A statement that selects one device changes exactly one row. -/
theorem update_one (devices : t.devices = some rows) (ids : (rows.map (·.id)).Nodup)
    {r : DeviceRow} (mem : r ∈ rows) (selected : selects r = true)
    (only : ∀ x ∈ rows, selects x = true → x.id = r.id) (id_eq : (change r).id = r.id) :
    update selects change t = (.ok 1, t.replace (change r)) := by
  have selects_iff : ∀ x ∈ rows, selects x = true ↔ x = r := by
    refine fun x hx => ⟨fun hit => DeviceRow.eq_of_id ids hx mem (only x hx hit), ?_⟩
    rintro rfl
    exact selected
  have count : rows.countP selects = 1 := by
    rw [← List.count_eq_one_of_mem ids.of_map mem, List.count]
    refine List.countP_congr fun x hx => ?_
    rw [selects_iff x hx, beq_iff_eq]
  have changed : t.change selects change = t.replace (change r) := by
    refine Database.change_congr devices (fun x hx => ?_) fun x hx hit => ?_
    · rw [Bool.eq_iff_iff, selects_iff x hx, beq_iff_eq, id_eq]
      exact ⟨congrArg DeviceRow.id, DeviceRow.eq_of_id ids hx mem⟩
    · rw [(selects_iff x hx).1 hit]
  rw [update_eq devices, count, changed]

/-! ### The changes of a device -/

/-- What a call as a whole gives, as statements give it. -/
def Gives (statements : Statements α) (t : Database)
    (outcome : Except IdentityError (α × Database)) : Prop :=
  statements t = match outcome with
    | .ok (a, t') => (.ok a, t')
    | .error e => (.error e, t)

theorem Gives.execute {toAnswer : α → Answer} {statements : Statements α}
    {outcome : Except IdentityError (α × Database)} (h : Gives statements t outcome) :
    ((statements t).1.map toAnswer, Store.database (statements t).2) =
      settle (.database t) toAnswer (Store.answer .database outcome) := by
  rw [show statements t = _ from h]
  cases outcome with
  | error e => rfl
  | ok pair => rfl

theorem statusCodeOf_eq (devices : t.devices = some rows) (id : String) :
    statusCodeOf id t = .ok ((rows.find? (·.id == id)).map (·.statusCode)) := by
  rw [statusCodeOf, Database.deviceRows_eq_ok_iff.2 devices]
  rfl

theorem gives_updateDeviceStatus (sound : Store.Sound (.database t)) (id : String)
    (change : StatusUpdate) : Gives (updateDeviceStatus id change) t
      ((t.updateDeviceStatus id change).map fun t => ((), t)) := by
  obtain ⟨rows, devices⟩ := Option.isSome_iff_exists.1 sound.hasTables.2
  have ids := sound.ids
  rw [Store.rows_database devices] at ids
  rw [Database.updateDeviceStatus, Database.deviceRows_eq_ok_iff.2 devices]
  have looked := statusCodeOf_eq devices id
  cases found : rows.find? (·.id == id) with
  | none =>
    have unselected : ∀ r ∈ rows, (r.id == id && r.statusCode == change.expected.code) = false :=
      fun r mem => by simp [by simpa using List.find?_eq_none.1 found r mem]
    rw [found] at looked
    simp only [bind, Except.bind, found]
    exact (run_bind_of_ok (update_none devices unselected)).trans
      (run_bind_of_ok (congrArg (·, t) looked))
  | some r =>
    obtain ⟨mem, rfl⟩ := mem_of_find?_beq found
    rw [found] at looked
    simp only [bind, Except.bind, found]
    by_cases expected : r.statusCode = change.expected.code
    · rw [if_neg (not_not_intro expected)]
      refine run_bind_of_ok (update_one devices ids mem ?_ ?_ rfl)
      · simp [expected]
      · exact fun x _ hit => by simpa using (Bool.and_eq_true_iff.1 hit).1
    · rw [if_pos expected]
      have unselected : ∀ x ∈ rows,
          (x.id == r.id && x.statusCode == change.expected.code) = false := by
        intro x hx
        by_cases same : x.id = r.id
        · simp [DeviceRow.eq_of_id ids hx mem same, expected]
        · simp [same]
      exact (run_bind_of_ok (update_none devices unselected)).trans
        (run_bind_of_ok (congrArg (·, t) looked))

theorem gives_updateDeviceData (sound : Store.Sound (.database t)) (id deviceData : String) :
    Gives (updateDeviceData id deviceData) t
      ((t.updateDeviceData id deviceData).map fun t => ((), t)) := by
  obtain ⟨rows, devices⟩ := Option.isSome_iff_exists.1 sound.hasTables.2
  have ids := sound.ids
  rw [Store.rows_database devices] at ids
  rw [Database.updateDeviceData, Database.deviceRows_eq_ok_iff.2 devices]
  simp only [bind, Except.bind]
  cases found : rows.find? (·.id == id) with
  | none =>
    have unselected : ∀ r ∈ rows, (r.id == id) = false :=
      fun r mem => by simpa using List.find?_eq_none.1 found r mem
    exact run_bind_of_ok (update_none devices unselected)
  | some r =>
    obtain ⟨mem, rfl⟩ := mem_of_find?_beq found
    refine run_bind_of_ok (update_one devices ids mem ?_ ?_ rfl)
    · exact beq_iff_eq.2 rfl
    · exact fun x _ hit => beq_iff_eq.1 hit

theorem transaction_of_ok {statements : Statements α} {a : α} {t' : Database}
    (h : statements t = (.ok a, t')) : transaction statements t = (.ok a, t') := by
  rw [transaction, h]

theorem transaction_of_error {statements : Statements α} {e : IdentityError} {t' : Database}
    (h : statements t = (.error e, t')) : transaction statements t = (.error e, t) := by
  rw [transaction, h]

/-- An enrollment changes the device in the status in which it has read it. -/
theorem gives_enrollDevice (sound : Store.Sound (.database t)) (request : EnrollmentRequest) :
    Gives (enrollDevice request) t (t.enrollDevice request) := by
  obtain ⟨rows, devices⟩ := Option.isSome_iff_exists.1 sound.hasTables.2
  have ids := sound.ids
  rw [Store.rows_database devices] at ids
  obtain ⟨joined, joined_eq⟩ : ∃ joined, t.joined = .ok joined :=
    ⟨_, Store.joined_eq sound.hasTables⟩
  have read := Database.getDevice.eq_1 t request.brand request.model request.serialNumber
  rw [joined_eq] at read
  rw [Database.enrollDevice, joined_eq]
  cases found : joined.find? (·.1.isOf request.brand request.model request.serialNumber) with
  | none =>
    simp only [bind, Except.bind, found] at read ⊢
    exact transaction_of_error (run_bind_of_error (congrArg (·, t) read))
  | some pair =>
    obtain ⟨r, o⟩ := pair
    simp only [bind, Except.bind, found] at read
    cases shown : r.enrollment o with
    | error e =>
      simp only [bind, Except.bind, found, shown]
      exact transaction_of_error (run_bind_of_error (congrArg (·, t) (read.trans shown)))
    | ok current =>
      simp only [bind, Except.bind, found, shown]
      have looked : query (·.getDevice request.brand request.model request.serialNumber) t =
          (.ok current, t) := congrArg (·, t) (read.trans shown)
      obtain ⟨status, code, rfl⟩ := DeviceRow.enrollment_eq_ok_iff.1 shown
      by_cases waiting : status = .waiting
      · obtain ⟨_, mem, _⟩ := Database.mem_joined joined_eq (List.mem_of_find?_eq_some found)
        rw [devices] at mem
        have passed : ¬ (r.toEnrollment o status).status ≠ .waiting := not_not_intro waiting
        rw [if_neg passed]
        refine transaction_of_ok ((run_bind_of_ok looked).trans ?_)
        rw [if_neg passed]
        refine run_bind_of_ok (update_one devices ids mem ?_ ?_ rfl)
        · simp [code, waiting, DeviceRow.toEnrollment]
        · exact fun x _ hit => beq_iff_eq.1 (Bool.and_eq_true_iff.1 hit).1
      · have refused : (r.toEnrollment o status).status ≠ .waiting := waiting
        rw [if_pos refused]
        exact transaction_of_error ((run_bind_of_ok looked).trans
          ((congrFun (if_pos refused) t).trans (run_bind_of_error rfl)))

end Statements

/-! ### Calls -/

namespace Store

/-- Makes a call; in a database a device is changed by its statements. -/
def execute (s : Store) (call : Call) : Except IdentityError Answer × Store :=
  match s, call with
  | .database t, .enrollDevice request =>
    ((Statements.enrollDevice request t).1.map .enrollment,
      .database (Statements.enrollDevice request t).2)
  | .database t, .updateDeviceStatus id update =>
    ((Statements.updateDeviceStatus id update t).1.map fun _ => .done,
      .database (Statements.updateDeviceStatus id update t).2)
  | .database t, .updateDeviceData id deviceData =>
    ((Statements.updateDeviceData id deviceData t).1.map fun _ => .done,
      .database (Statements.updateDeviceData id deviceData t).2)
  | s, call => s.perform call

/-- The statements of a call do what the call does as a whole. -/
theorem Sound.execute_eq {s : Store} (h : s.Sound) (call : Call) :
    s.execute call = s.perform call := by
  cases s with
  | memory t => rfl
  | database t =>
    cases call with
    | enrollDevice request => exact (Statements.gives_enrollDevice h request).execute
    | updateDeviceStatus id update =>
      rw [Store.perform, Store.updateDeviceStatus, done_eq_answer]
      exact (Statements.gives_updateDeviceStatus h id update).execute
    | updateDeviceData id deviceData =>
      rw [Store.perform, Store.updateDeviceData, done_eq_answer]
      exact (Statements.gives_updateDeviceData h id deviceData).execute
    | createOrganization | getOrganization | getOrganizationByName | listOrganizations
    | createDevice | getDevice | getDeviceById | listDevices => rfl

end Store

end FleetIdentity
