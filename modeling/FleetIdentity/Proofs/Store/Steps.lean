import FleetIdentity.Proofs.Store.Consistency
import FleetIdentity.Store.Steps

/-!
# Writes in memory are atomic although nothing is rolled back

A write of the store in memory that fails after a change would leave half of it behind. None does:
every check but one comes before the first change. The one that comes after it, the look-up of the
organization for the answer to an enrollment, cannot fail in tables that calls have made, since the
owner of each device is there. So the steps of a call do what the call does as a whole.
-/

namespace FleetIdentity

namespace TableSteps

/-- The steps of a call; a read is a look. -/
def perform : Call → TableSteps Answer
  | .createOrganization id new => do return .created (← createOrganization id new)
  | .createDevice id new => do return .created (← createDevice id new)
  | .enrollDevice request => do return .enrollment (← enrollDevice request)
  | .updateDeviceStatus id update => do
    updateDeviceStatus id update
    return .done
  | .updateDeviceData id deviceData => do
    updateDeviceData id deviceData
    return .done
  | call => look fun t => (t.perform call).1

variable {α β : Type} {t t' : MemoryTables}

/-- The steps end as a call that gives an answer and new tables, or fails and changes nothing. -/
def Settle (steps : TableSteps α) (t : MemoryTables)
    (outcome : Except IdentityError (α × MemoryTables)) : Prop :=
  steps t = match outcome with
    | .ok (a, t') => (.ok a, t')
    | .error e => (.error e, t)

theorem Settle.answer {toAnswer : α → Answer} {steps : TableSteps α}
    {outcome : Except IdentityError (α × MemoryTables)} (h : Settle steps t outcome) :
    (steps >>= fun a => pure (toAnswer a) : TableSteps Answer) t = settle t toAnswer outcome := by
  cases outcome with
  | error e => exact run_bind_of_error h
  | ok pair => exact run_bind_of_ok h

/-- A look in front of the steps is a check in front of the call. -/
theorem Settle.look {answer : MemoryTables → Except IdentityError α} {f : α → TableSteps β}
    {g : α → Except IdentityError (β × MemoryTables)}
    (later : ∀ a, answer t = .ok a → Settle (f a) t (g a)) :
    Settle (TableSteps.look answer >>= f) t (answer t >>= g) := by
  cases seen : answer t with
  | error e => exact run_bind_of_error (congrArg (·, t) seen)
  | ok a => exact (run_bind_of_ok (congrArg (·, t) seen)).trans (later a seen)

theorem Settle.failIf {condition : MemoryTables → Bool} {failure : IdentityError}
    {steps : TableSteps β} {outcome : Except IdentityError (β × MemoryTables)}
    (later : condition t = false → Settle steps t outcome) :
    Settle (TableSteps.failIf condition failure >>= fun _ => steps) t
      (if condition t then .error failure else outcome) := by
  cases holds : condition t with
  | true =>
    have ends : TableSteps.failIf condition failure t = (.error failure, t) := by
      rw [TableSteps.failIf, TableSteps.look, holds]
      rfl
    exact run_bind_of_error ends
  | false =>
    have passes : TableSteps.failIf condition failure t = (.ok (), t) := by
      rw [TableSteps.failIf, TableSteps.look, holds]
      rfl
    exact (run_bind_of_ok passes).trans (later holds)

theorem Settle.failOf {p : Prop} [Decidable p] {failure : IdentityError} {steps : TableSteps β}
    {outcome : Except IdentityError (β × MemoryTables)} (later : ¬ p → Settle steps t outcome) :
    Settle (TableSteps.failIf (fun _ => decide p) failure >>= fun _ => steps) t
      (if p then .error failure else outcome) := by
  have settles : Settle (TableSteps.failIf (fun _ => decide p) failure >>= fun _ => steps) t
      (if decide p = true then .error failure else outcome) :=
    Settle.failIf fun fails => later (of_decide_eq_false fails)
  by_cases holds : p
  · rw [if_pos holds]
    rwa [if_pos (decide_eq_true holds)] at settles
  · rw [if_neg holds]
    rwa [if_neg (by simpa using holds)] at settles

/-! ### The five writes -/

theorem settle_createOrganization (id : String) (new : NewOrganization) :
    Settle (createOrganization id new) t (t.createOrganization id new) := by
  refine Settle.look fun _ _ => ?_
  refine Settle.failIf fun _ => ?_
  rfl

theorem settle_createDevice (id : String) (new : NewDevice) :
    Settle (createDevice id new) t (t.createDevice id new) := by
  refine Settle.look fun _ _ => ?_
  refine Settle.failIf fun _ => ?_
  refine Settle.failIf fun _ => ?_
  refine Settle.failIf fun _ => ?_
  rfl

theorem settle_updateDeviceStatus (id : String) (update : StatusUpdate) :
    Settle (updateDeviceStatus id update) t
      ((t.updateDeviceStatus id update).map fun t => ((), t)) := by
  have whole : (t.updateDeviceStatus id update).map (fun t => ((), t)) = do
      let r ← t.deviceById id
      if r.status ≠ update.expected then
        throw (.invalidState s!"device `{id}` is {r.status.name}, expected {update.expected.name}")
      return ((), t.replace id
        { r with status := update.status, deviceData := update.deviceData }) := by
    rw [MemoryTables.updateDeviceStatus]
    cases t.deviceById id with
    | error e => rfl
    | ok r =>
      simp only [bind, Except.bind]
      split <;> rfl
  rw [whole]
  refine Settle.look fun r _ => ?_
  refine Settle.failOf fun _ => ?_
  rfl

theorem settle_updateDeviceData (id deviceData : String) :
    Settle (updateDeviceData id deviceData) t
      ((t.updateDeviceData id deviceData).map fun t => ((), t)) := by
  have whole : (t.updateDeviceData id deviceData).map (fun t => ((), t)) = do
      let r ← t.deviceById id
      return ((), t.replace id { r with deviceData }) := by
    rw [MemoryTables.updateDeviceData]
    cases t.deviceById id with
    | error e => rfl
    | ok r => rfl
  rw [whole]
  exact Settle.look fun r _ => rfl

/-- The answer to an enrollment is found, since the enrolled device still has its owner. -/
theorem settle_enrollDevice {s : MemoryStore} (h : Represents t s)
    (sound : Store.Sound (.memory s)) (request : EnrollmentRequest) :
    Settle (enrollDevice request) t (t.enrollDevice request) := by
  refine Settle.look fun id _ => ?_
  refine Settle.look fun r there => ?_
  refine Settle.failOf fun _ => ?_
  rw [h.deviceById] at there
  obtain ⟨mem, rfl⟩ := mem_of_find?_beq (MemoryStore.deviceById_eq_ok_iff.1 there)
  obtain ⟨o, owner, _⟩ := sound.enrollment_record mem
  have again : (t.replace r.id (r.enrolled request)).deviceById r.id =
      .ok (r.enrolled request) := by
    rw [MemoryTables.deviceById, MemoryTables.replace, Dictionary.get?_insert, if_pos rfl]
  have answered : (t.replace r.id (r.enrolled request)).enrollment (r.enrolled request) =
      .ok ((r.enrolled request).row.toEnrollment o .enrolled) := by
    have owned : (t.replace r.id (r.enrolled request)).organizations.get? r.organizationId =
        some o := (h.get?_organization r.organizationId).trans owner
    have owner_eq : (r.enrolled request).organizationId = r.organizationId := rfl
    rw [MemoryTables.enrollment, owner_eq, owned]
    rfl
  calc (change (·.replace r.id (r.enrolled request)) >>= fun _ =>
        look (·.deviceById r.id) >>= fun changed => look (·.enrollment changed)) t
      = (look (·.deviceById r.id) >>= fun changed => look (·.enrollment changed))
          (t.replace r.id (r.enrolled request)) := run_bind_of_ok rfl
    _ = look (·.enrollment (r.enrolled request)) (t.replace r.id (r.enrolled request)) :=
      run_bind_of_ok (congrArg (·, t.replace r.id (r.enrolled request)) again)
    _ = _ := by
      simp only [again, answered, bind, Except.bind]
      rw [look, answered]
      rfl

/-- The steps of a call give the answer of the call and leave the tables that it leaves. -/
theorem perform_eq {s : MemoryStore} (h : Represents t s) (sound : Store.Sound (.memory s))
    (call : Call) : perform call t = t.perform call := by
  cases call with
  | createOrganization id new => exact (settle_createOrganization id new).answer
  | createDevice id new => exact (settle_createDevice id new).answer
  | enrollDevice request => exact (settle_enrollDevice h sound request).answer
  | updateDeviceStatus id update =>
    exact (settle_updateDeviceStatus id update).answer
  | updateDeviceData id deviceData =>
    exact (settle_updateDeviceData id deviceData).answer
  | getOrganization | getOrganizationByName | listOrganizations | getDevice | getDeviceById
  | listDevices => rfl

/-- A call whose steps fail has changed nothing. -/
theorem perform_failed (attained : t.Attained) {call : Call} {e : IdentityError}
    (failed : perform call t = (.error e, t')) : t' = t := by
  obtain ⟨s, reached, h⟩ := attained.represents
  rw [perform_eq h reached.sound] at failed
  have kept {α : Type} {toAnswer : α → Answer} {outcome : Except IdentityError (α × MemoryTables)}
      (settled : settle t toAnswer outcome = (.error e, t')) : t' = t := by
    cases outcome with
    | error e => exact (congrArg Prod.snd settled).symm
    | ok pair => cases settled
  cases call with
  | createOrganization | createDevice | enrollDevice | updateDeviceStatus | updateDeviceData =>
    exact kept failed
  | getOrganization | getOrganizationByName | listOrganizations | getDevice | getDeviceById
  | listDevices => exact (congrArg Prod.snd failed).symm

end TableSteps

end FleetIdentity
