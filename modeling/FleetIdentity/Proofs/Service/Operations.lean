import FleetIdentity.Proofs.Service.Outcomes

/-!
# The operations of the service as data

An operation names what the service is asked for with all that it is given, so that what clients do
is a list of events: operations, each with how it ended. An operation that succeeds does one of five
things to the two lists of a store, and one that fails does nothing; this is said once, in `Step`.

The id that is handed in for an organization is assumed to be new in a run; of a device the store
itself sees to it.
-/

namespace FleetIdentity

namespace IdentityService

/-- An operation of the service with what it is given. -/
inductive Operation where
  | registerOrganization (fresh : Fresh) (request : OrganizationRequest)
  | registerDevice (fresh : Fresh) (request : DeviceRequest)
  | enrollDevice (first second : Assertion)
  | updateStatus (deviceId : String) (target : Status) (deviceData : Option String)
  | deviceUpdate (organizationId deviceId : String) (target : Status) (deviceData : Option String)
  | organizationList
  | deviceList (organizationId : String)
  | deviceGet (organizationId deviceId : String)

/-- What an operation gives when it succeeds. -/
inductive Reply where
  | registered (id : String)
  | enrollment (e : Enrollment)
  | changed (change : StatusChange)
  | organizations (listed : List Organization)
  | enrollments (listed : List Enrollment)
  deriving DecidableEq

/-- Makes an operation. -/
def perform (service : IdentityService) : Operation → StoreCall Reply
  | .registerOrganization fresh request => do
    return .registered (← service.registerOrganization fresh request)
  | .registerDevice fresh request => do return .registered (← service.registerDevice fresh request)
  | .enrollDevice first second => do return .enrollment (← enrollDevice first second)
  | .updateStatus deviceId target deviceData => do
    return .changed (← updateStatus deviceId target deviceData)
  | .deviceUpdate organizationId deviceId target deviceData => do
    return .changed (← deviceUpdate organizationId deviceId target deviceData)
  | .organizationList => do return .organizations (← organizationList)
  | .deviceList organizationId => do return .enrollments (← deviceList organizationId)
  | .deviceGet organizationId deviceId => do
    return .enrollment (← deviceGet organizationId deviceId)

/-- The id that the operation brings for a new organization is none of those in the store. -/
def Operation.FreshFor (s : Store) : Operation → Prop
  | .registerOrganization fresh _ => ∀ o ∈ s.organizations, o.id ≠ fresh.id
  | _ => True

/-- An operation that was made, and how it ended. -/
structure Event where
  operation : Operation
  outcome : Except IdentityError Reply

/-- The events of a run, and the store after it. -/
inductive Run (service : IdentityService) (start : Store) : List Event → Store → Prop where
  | start : Run service start [] start
  | perform {events : List Event} {s s' : Store} {operation : Operation}
      {outcome : Except IdentityError Reply} (run : Run service start events s)
      (fresh : operation.FreshFor s)
      (performed : (service.perform operation).runOn s = (outcome, s')) :
      Run service start (events ++ [⟨operation, outcome⟩]) s'

namespace Event

/-- An organization was registered. -/
def registersOrganization : Event → Bool
  | ⟨.registerOrganization _ _, .ok _⟩ => true
  | _ => false

/-- A device was registered. -/
def registersDevice : Event → Bool
  | ⟨.registerDevice _ _, .ok _⟩ => true
  | _ => false

/-- What the pair asked for that enrolled a device. -/
def enrolls? (id : String) : Event → Option EnrollmentRequest
  | ⟨.enrollDevice first second, .ok (.enrollment e)⟩ =>
    if e.id = id then (EnrollmentRequest.ofPair first second).toOption else none
  | _ => none

/-- The data that an update gave a device. -/
def data? (id : String) : Event → Option String
  | ⟨.updateStatus deviceId _ deviceData, .ok _⟩
  | ⟨.deviceUpdate _ deviceId _ deviceData, .ok _⟩ => if deviceId = id then deviceData else none
  | _ => none

/-- What the last of the events says that says anything. -/
def last {α : Type} (read? : Event → Option α) (events : List Event) : Option α :=
  events.reverse.findSome? read?

variable {α : Type} {read? : Event → Option α} {events : List Event} {x : Event}

theorem last_concat : last read? (events ++ [x]) = (read? x).or (last read? events) := by
  rw [last, last, List.reverse_append, List.reverse_singleton, List.singleton_append,
    List.findSome?_cons]
  cases read? x <;> rfl

theorem last_concat_of_none (silent : read? x = none) :
    last read? (events ++ [x]) = last read? events := by
  rw [last_concat, silent, Option.none_or]

end Event

/-! ### What one operation does -/

/-- What an operation with an outcome does to the two lists of a store. -/
inductive Step (s s' : Store) : Operation → Except IdentityError Reply → Prop where
  | failed {operation : Operation} {e : IdentityError} (same : s' = s) :
      Step s s' operation (.error e)
  | read {operation : Operation} {reply : Reply} (same : s' = s)
      (reads : operation = .organizationList ∨ (∃ id, operation = .deviceList id) ∨
        ∃ id deviceId, operation = .deviceGet id deviceId) : Step s s' operation (.ok reply)
  | organization {fresh : Fresh} {request : OrganizationRequest} {reply : Reply} (o : Organization)
      (id_eq : o.id = fresh.id) (write : s.Write s')
      (becomes : s.Becomes s' (s.organizations ++ [o]) s.rows) :
      Step s s' (.registerOrganization fresh request) (.ok reply)
  | device {fresh : Fresh} {request : DeviceRequest} {reply : Reply} (row : DeviceRow)
      (free : ∀ r ∈ s.rows, r.id ≠ row.id) (unset : row.device.storeId = "" ∧
        row.device.deviceKey = "" ∧ row.deviceData = "")
      (write : s.Write s') (becomes : s.Becomes s' s.organizations (s.rows ++ [row])) :
      Step s s' (.registerDevice fresh request) (.ok reply)
  | enrolled {first second : Assertion} {request : EnrollmentRequest} {e : Enrollment}
      (row : DeviceRow) (mem : row ∈ s.rows)
      (asked : EnrollmentRequest.ofPair first second = .ok request) (id_eq : e.id = row.id)
      (becomes : s.Becomes s' s.organizations
        (DeviceRow.replaceIn s.rows (row.enrolled request))) :
      Step s s' (.enrollDevice first second) (.ok (.enrollment e))
  | updated {operation : Operation} {target : Status} {deviceData : Option String} {reply : Reply}
      (row : DeviceRow) (mem : row ∈ s.rows)
      (updates : operation = .updateStatus row.id target deviceData ∨
        ∃ organizationId, operation = .deviceUpdate organizationId row.id target deviceData)
      (becomes : s.Becomes s' s.organizations
        (DeviceRow.replaceIn s.rows (row.administered target deviceData))) :
      Step s s' operation (.ok reply)

end IdentityService

namespace StoreCall

/-- A call and what its answer is turned into. -/
theorem runOn_bind_pure_eq_iff {α β : Type} {call : StoreCall α} {f : α → β} {s s' : Store}
    {outcome : Except IdentityError β} :
    (call >>= fun a => pure (f a)).runOn s = (outcome, s') ↔
      ∃ inner, call.runOn s = (inner, s') ∧ outcome = inner.map f := by
  rcases run : call.runOn s with ⟨inner, t⟩
  cases inner with
  | error e =>
    rw [runOn_bind_of_error run]
    simp [Except.map, eq_comm, and_comm]
  | ok a =>
    rw [runOn_bind_of_ok run, runOn_pure]
    simp [Except.map, eq_comm, and_comm]

end StoreCall

namespace IdentityService

open StoreCall

variable {service : IdentityService} {s s' : Store} {operation : Operation}
  {outcome : Except IdentityError Reply}

theorem Step.of_failed {α : Type} {f : α → Reply} {inner : Except IdentityError α}
    (outcome_eq : outcome = inner.map f) (atomic : ∀ e, inner = .error e → s' = s)
    (ok : ∀ a, inner = .ok a → Step s s' operation (.ok (f a))) : Step s s' operation outcome := by
  cases inner with
  | error e =>
    rw [outcome_eq]
    exact .failed (atomic e rfl)
  | ok a =>
    rw [outcome_eq]
    exact ok a rfl

/-- Every operation on a sound store is one of the steps. -/
theorem step_of_perform (h : s.Sound) (operation : Operation)
    (performed : (service.perform operation).runOn s = (outcome, s')) :
    Step s s' operation outcome := by
  cases operation with
  | registerOrganization fresh request =>
    obtain ⟨inner, run, outcome_eq⟩ := runOn_bind_pure_eq_iff.1 performed
    refine .of_failed outcome_eq ?_ fun id registered => ?_
    · rintro e rfl
      exact atomic_registerOrganization request s e s' run
    · obtain ⟨new, _, _, created⟩ := registerOrganization_ok (registered ▸ run)
      obtain ⟨_, _, _, becomes⟩ := Store.createOrganization_ok created
      exact .organization _ rfl (.createOrganization created) becomes
  | registerDevice fresh request =>
    obtain ⟨inner, run, outcome_eq⟩ := runOn_bind_pure_eq_iff.1 performed
    refine .of_failed outcome_eq ?_ fun id registered => ?_
    · rintro e rfl
      exact atomic_registerDevice request s e s' run
    · obtain ⟨new, _, _, _, created⟩ := registerDevice_ok (registered ▸ run)
      obtain ⟨_, _, _, free, becomes⟩ := Store.createDevice_ok created
      exact .device (new.row fresh.id) (fun r mem => (free r mem).1) ⟨rfl, rfl, rfl⟩
        (.createDevice created) becomes
  | enrollDevice first second =>
    obtain ⟨inner, run, outcome_eq⟩ := runOn_bind_pure_eq_iff.1 performed
    refine .of_failed outcome_eq ?_ fun e enrolled => ?_
    · rintro e rfl
      exact atomic_enrollDevice first second s e s' run
    · obtain ⟨request, asked, made⟩ := enrollDevice_ok (enrolled ▸ run)
      obtain ⟨row, mem, _, _, _, _, _, shown, becomes⟩ := Store.enrollDevice_ok made
      exact .enrolled row mem asked (congrArg Enrollment.id shown) becomes
  | updateStatus deviceId target deviceData =>
    obtain ⟨inner, run, outcome_eq⟩ := runOn_bind_pure_eq_iff.1 performed
    rcases updateStatus_run h deviceId target deviceData with
      ⟨e, failed⟩ | ⟨row, mem, status, t, rfl, _, _, done, becomes⟩
    · cases run.symm.trans failed
      exact outcome_eq ▸ .failed rfl
    · cases run.symm.trans done
      exact outcome_eq ▸ .updated row mem (.inl rfl) becomes
  | deviceUpdate organizationId deviceId target deviceData =>
    obtain ⟨inner, run, outcome_eq⟩ := runOn_bind_pure_eq_iff.1 performed
    rcases deviceUpdate_run h organizationId deviceId target deviceData with
      ⟨e, failed⟩ | ⟨row, mem, status, t, rfl, _, done, becomes⟩
    · cases run.symm.trans failed
      exact outcome_eq ▸ .failed rfl
    · cases run.symm.trans done
      exact outcome_eq ▸ .updated row mem (.inr ⟨organizationId, rfl⟩) becomes
  | organizationList =>
    obtain ⟨inner, run, outcome_eq⟩ := runOn_bind_pure_eq_iff.1 performed
    have same := (reading_read _).eq run
    exact .of_failed outcome_eq (fun _ _ => same) fun _ _ => .read same (.inl rfl)
  | deviceList organizationId =>
    obtain ⟨inner, run, outcome_eq⟩ := runOn_bind_pure_eq_iff.1 performed
    have same := (reading_read _).eq run
    exact .of_failed outcome_eq (fun _ _ => same) fun _ _ => .read same (.inr (.inl ⟨_, rfl⟩))
  | deviceGet organizationId deviceId =>
    obtain ⟨inner, run, outcome_eq⟩ := runOn_bind_pure_eq_iff.1 performed
    have same := (reading_deviceGet _ _).eq run
    exact .of_failed outcome_eq (fun _ _ => same) fun _ _ => .read same (.inr (.inr ⟨_, _, rfl⟩))

theorem Step.sound (h : s.Sound) (step : Step s s' operation outcome) : s'.Sound := by
  cases step with
  | failed same | read same =>
    rw [same]
    exact h
  | organization _ _ write | device _ _ _ write => exact h.write write
  | enrolled row mem _ _ becomes => exact h.replace mem becomes rfl rfl rfl ⟨.enrolled, rfl⟩
  | updated row mem _ becomes => exact h.replace mem becomes rfl rfl rfl ⟨_, rfl⟩

end IdentityService

end FleetIdentity
