import FleetIdentity.Proofs.Store.CallSteps
import Mathlib.Data.List.Induction

/-!
# Histories of calls, and the chain of statuses of each device

Any callers make any calls on a store that starts empty; in a database the changes of a device are
the statements that make them. What a history tells of a device are its moves: its registration,
its enrollments and its changes of status that succeeded. Each move starts where the one before it
ended, and the store shows the device where the last one ended. A call that would start elsewhere is
refused and changes nothing.

Nothing is assumed of the callers. In particular an update may name any two statuses.
-/

namespace FleetIdentity

/-- A call that was made, and how it was answered. -/
structure CallEvent where
  call : Call
  outcome : Except IdentityError Answer

/-- A change of the status of a device: from where, unless the device is new, and to where. -/
structure Move where
  source : Option Status
  target : Status

namespace CallEvent

/-- The move that an event tells of a device. -/
def move? (id : String) : CallEvent → Option Move
  | ⟨.createDevice created _, .ok _⟩ => if created = id then some ⟨none, .waiting⟩ else none
  | ⟨.enrollDevice _, .ok (.enrollment e)⟩ =>
    if e.id = id then some ⟨some .waiting, .enrolled⟩ else none
  | ⟨.updateDeviceStatus updated update, .ok _⟩ =>
    if updated = id then some ⟨some update.expected, update.status⟩ else none
  | _ => none

/-- A device was enrolled. -/
def Enrolls (id : String) (x : CallEvent) : Prop :=
  ∃ request e, x = ⟨.enrollDevice request, .ok (.enrollment e)⟩ ∧ e.id = id

/-- A device was sent back to wait for an enrollment. -/
def Demotes (id : String) (x : CallEvent) : Prop :=
  ∃ update answer, x = ⟨.updateDeviceStatus id update, .ok answer⟩ ∧ update.status = .waiting

variable {id : String}

theorem move?_error (call : Call) (e : IdentityError) : move? id ⟨call, .error e⟩ = none := by
  cases call <;> rfl

theorem move?_apart {call : Call} (apart : call.changesDevices = false) (answer : Answer) :
    move? id ⟨call, .ok answer⟩ = none := by
  cases call with
  | createDevice | enrollDevice | updateDeviceStatus | updateDeviceData => cases apart
  | _ => rfl

theorem Enrolls.move? {x : CallEvent} (enrolls : x.Enrolls id) :
    x.move? id = some ⟨some .waiting, .enrolled⟩ := by
  obtain ⟨request, e, rfl, same⟩ := enrolls
  exact if_pos same

/-- Of the moves to waiting only the first, the registration, is not an update. -/
theorem demotes_of_move {x : CallEvent} {source : Status}
    (moves : x.move? id = some ⟨some source, .waiting⟩) : x.Demotes id := by
  obtain ⟨call, outcome⟩ := x
  cases outcome with
  | error e =>
    rw [move?_error] at moves
    cases moves
  | ok answer =>
    cases call with
    | updateDeviceStatus updated update =>
      obtain ⟨same, eq⟩ := Option.ite_none_right_eq_some.1 moves
      exact ⟨update, answer, by rw [same], congrArg Move.target (Option.some.inj eq)⟩
    | createDevice created new =>
      obtain ⟨_, eq⟩ := Option.ite_none_right_eq_some.1 moves
      cases eq
    | enrollDevice request =>
      cases answer with
      | enrollment e =>
        obtain ⟨_, eq⟩ := Option.ite_none_right_eq_some.1 moves
        cases eq
      | _ => cases moves
    | _ => cases moves

end CallEvent

/-- The moves that the events tell of a device follow each other, from nowhere to a status. -/
inductive Chain (id : String) : List CallEvent → Option Status → Prop where
  | start : Chain id [] none
  | stay {events : List CallEvent} {status : Option Status} {x : CallEvent}
      (chain : Chain id events status) (stays : x.move? id = none) : Chain id (events ++ [x]) status
  | move {events : List CallEvent} {m : Move} {x : CallEvent} (chain : Chain id events m.source)
      (moves : x.move? id = some m) : Chain id (events ++ [x]) (some m.target)

/-- The events of a history, and the store after it. -/
inductive History (start : Store) : List CallEvent → Store → Prop where
  | start : History start [] start
  | call {events : List CallEvent} {s s' : Store} {call : Call}
      {outcome : Except IdentityError Answer} (history : History start events s)
      (made : s.execute call = (outcome, s')) : History start (events ++ [⟨call, outcome⟩]) s'

/-! ### One event more -/

namespace Chain

variable {id : String} {events before between : List CallEvent} {status : Option Status}
  {x first : CallEvent} {s s' : Store}

/-- A step that puts one row in its place moves the device of that row. -/
theorem extend (h : s.Sound) (h' : s'.Sound) (chain : Chain id events (s.statusOf id))
    (r : DeviceRow) (m : Move) (row?_eq : s'.row? id = if r.id = id then some r else s.row? id)
    (source_eq : s.statusOf r.id = m.source) (code : r.statusCode = m.target.code)
    (moves : x.move? id = if r.id = id then some m else none) :
    Chain id (events ++ [x]) (s'.statusOf id) := by
  by_cases hit : r.id = id
  · rw [if_pos hit] at row?_eq moves
    have arrived : s'.statusOf id = some m.target := by
      rw [h'.statusOf_eq, row?_eq, Option.bind_some, Status.ofCode?_eq_some_iff.2 code]
    rw [hit] at source_eq
    rw [arrived]
    exact .move (source_eq ▸ chain) moves
  · rw [if_neg hit] at row?_eq moves
    have same : s'.statusOf id = s.statusOf id := by
      rw [h'.statusOf_eq, h.statusOf_eq, row?_eq]
    exact same ▸ chain.stay moves

theorem step (h : s.Sound) (h' : s'.Sound) (chain : Chain id events (s.statusOf id)) {call : Call}
    {outcome : Except IdentityError Answer} (step : CallStep s s' call outcome) :
    Chain id (events ++ [⟨call, outcome⟩]) (s'.statusOf id) := by
  cases step with
  | failed same =>
    rw [same]
    exact chain.stay (CallEvent.move?_error _ _)
  | apart apart rows_eq =>
    have same : s'.statusOf id = s.statusOf id := by
      rw [h'.statusOf_eq, h.statusOf_eq, Store.row?, Store.row?, rows_eq]
    exact same ▸ chain.stay (CallEvent.move?_apart apart _)
  | @created created new free rows_eq =>
    have absent : s.statusOf created = none := by
      have missing : s.row? created = none :=
        List.find?_eq_none.2 fun r mem => by simpa using free r mem
      rw [h.statusOf_eq, missing]
      rfl
    exact chain.extend h h' (new.row created) ⟨none, .waiting⟩
      (Store.row?_append free rows_eq id) absent rfl rfl
  | @enrolled request e row mem waiting id_eq rows_eq =>
    have found : s.statusOf row.id = some .waiting := by
      rw [h.statusOf_eq, h.row?_of_mem mem, Option.bind_some,
        Status.ofCode?_eq_some_iff.2 waiting]
    have row?_eq := Store.row?_replaceIn (r := row.enrolled request) mem rfl rows_eq id
    refine chain.extend h h' _ ⟨some .waiting, .enrolled⟩ row?_eq found rfl ?_
    show _ = if row.id = id then _ else _
    rw [← id_eq]
    rfl
  | @updated update row mem expected rows_eq =>
    have found : s.statusOf row.id = some update.expected := by
      rw [h.statusOf_eq, h.row?_of_mem mem, Option.bind_some,
        Status.ofCode?_eq_some_iff.2 expected]
    have row?_eq := Store.row?_replaceIn (r := row.updated update) mem rfl rows_eq id
    exact chain.extend h h' _ ⟨some update.expected, update.status⟩ row?_eq found rfl rfl
  | @written deviceData row mem rows_eq =>
    have row?_eq := Store.row?_replaceIn (r := { row with deviceData }) mem rfl rows_eq id
    have same : s'.statusOf id = s.statusOf id := by
      rw [h'.statusOf_eq, h.statusOf_eq, row?_eq]
      by_cases hit : row.id = id
      · rw [if_pos hit, ← hit, h.row?_of_mem mem]
        rfl
      · rw [if_neg hit]
    exact same ▸ chain.stay rfl

/-! ### Between two moves -/

theorem of_concat (chain : Chain id (events ++ [x]) status) :
    (Chain id events status ∧ x.move? id = none) ∨
      ∃ m, Chain id events m.source ∧ x.move? id = some m ∧ status = some m.target := by
  generalize whole : events ++ [x] = all at chain
  cases chain with
  | start => simp at whole
  | stay chain stays =>
    obtain ⟨rfl, same⟩ := List.append_inj' whole rfl
    cases same
    exact .inl ⟨chain, stays⟩
  | move chain moves =>
    obtain ⟨rfl, same⟩ := List.append_inj' whole rfl
    cases same
    exact .inr ⟨_, chain, moves, rfl⟩

theorem of_append {after : List CallEvent} (chain : Chain id (before ++ after) status) :
    ∃ earlier, Chain id before earlier := by
  induction after using List.reverseRecOn generalizing status with
  | nil => exact ⟨status, by rwa [List.append_nil] at chain⟩
  | append_singleton after x ih =>
    rw [← List.append_assoc] at chain
    rcases chain.of_concat with ⟨chain, _⟩ | ⟨_, chain, _⟩
    · exact ih chain
    · exact ih chain

/-- After a move the device is where that move ended, or a later move from somewhere led it on. -/
theorem since (chain : Chain id (before ++ first :: between) status) {m : Move}
    (moves : first.move? id = some m) : status = some m.target ∨
      ∃ x ∈ between, ∃ source target, x.move? id = some ⟨some source, target⟩ ∧
        status = some target := by
  induction between using List.reverseRecOn generalizing status with
  | nil =>
    rcases chain.of_concat with ⟨_, stays⟩ | ⟨_, _, moved, rfl⟩
    · cases moves.symm.trans stays
    · cases moves.symm.trans moved
      exact .inl rfl
  | append_singleton between x ih =>
    rw [← List.cons_append, ← List.append_assoc] at chain
    rcases chain.of_concat with ⟨earlier, _⟩ | ⟨⟨source, target⟩, earlier, moved, rfl⟩
    · rcases ih earlier with same | ⟨y, mem, led⟩
      · exact .inl same
      · exact .inr ⟨y, List.mem_append_left _ mem, led⟩
    · have somewhere : ∃ status, source = some status := by
        rcases ih earlier with same | ⟨_, _, _, target, _, same⟩
        · exact ⟨m.target, same⟩
        · exact ⟨target, same⟩
      obtain ⟨status, rfl⟩ := somewhere
      exact .inr ⟨x, List.mem_append_right _ List.mem_cons_self, status, target, moved, rfl⟩

/-- Between two enrollments of a device it was sent back to wait. -/
theorem demoted_between {second : CallEvent} {after : List CallEvent}
    (chain : Chain id (before ++ first :: between ++ second :: after) status)
    (enrolls : first.Enrolls id) (again : second.Enrolls id) : ∃ x ∈ between, x.Demotes id := by
  rw [List.append_cons (before ++ first :: between)] at chain
  obtain ⟨earlier, chain⟩ := chain.of_append
  rcases chain.of_concat with ⟨_, stays⟩ | ⟨_, chain, moved, _⟩
  · cases stays.symm.trans again.move?
  · cases again.move?.symm.trans moved
    rcases chain.since enrolls.move? with same | ⟨x, mem, source, target, moves, same⟩
    · cases same
    · cases same
      exact ⟨x, mem, CallEvent.demotes_of_move moves⟩

end Chain

/-! ### Calls that fit the chain, and calls that do not -/

theorem settle_of_map_ok {σ α : Type} {s : σ} {toAnswer : α → Answer}
    {outcome : Except IdentityError (α × σ)} {a : α} (h : outcome.map (·.1) = .ok a) :
    ∃ s', settle s toAnswer outcome = (.ok (toAnswer a), s') := by
  cases outcome with
  | error e => cases h
  | ok pair =>
    cases h
    exact ⟨pair.2, rfl⟩

theorem settle_of_map_error {σ α : Type} {s : σ} {toAnswer : α → Answer}
    {outcome : Except IdentityError (α × σ)} {e : IdentityError}
    (h : outcome.map (·.1) = .error e) : settle s toAnswer outcome = (.error e, s) := by
  cases outcome with
  | error e =>
    cases h
    rfl
  | ok pair => cases h

namespace Store

variable {s : Store} {id : String}

theorem statusOf_eq_some_iff {status : Status} :
    s.statusOf id = some status ↔ ∃ e, s.getDeviceById id = .ok e ∧ e.status = status := by
  rw [statusOf]
  cases s.getDeviceById id <;> simp [Except.toOption]

theorem Sound.statusOf_of_getDevice (h : s.Sound) {brand model serialNumber : String}
    {current : Enrollment} (found : s.getDevice brand model serialNumber = .ok current) :
    s.statusOf current.id = some current.status := by
  have listed := ((getDevice_eq_ok_iff h).1 found).1
  exact statusOf_eq_some_iff.2 ⟨current, (getDeviceById_eq_ok_iff h).2 ⟨listed, rfl⟩, rfl⟩

/-- An update succeeds exactly if it expects the status in which the device is. -/
theorem Sound.execute_updateDeviceStatus (h : s.Sound) {status : Status}
    (shown : s.statusOf id = some status) (update : StatusUpdate) :
    if status = update.expected then
      ∃ s', s.execute (.updateDeviceStatus id update) = (.ok .done, s')
    else ∃ text, s.execute (.updateDeviceStatus id update) = (.error (.invalidState text), s) := by
  obtain ⟨current, found, rfl⟩ := statusOf_eq_some_iff.1 shown
  obtain ⟨text, answer⟩ := updateDeviceStatus_answer h id update
  rw [found] at answer
  rw [h.execute_eq]
  split
  · next fits => exact settle_of_map_ok (answer.trans (if_neg (not_not_intro fits)))
  · next misfit => exact ⟨text, settle_of_map_error (answer.trans (if_pos misfit))⟩

/-- An enrollment succeeds exactly if the device that it names waits. -/
theorem Sound.execute_enrollDevice (h : s.Sound) {request : EnrollmentRequest}
    {current : Enrollment}
    (found : s.getDevice request.brand request.model request.serialNumber = .ok current) :
    match current.status with
    | .waiting => ∃ e s', s.execute (.enrollDevice request) = (.ok (.enrollment e), s') ∧
      e.id = current.id
    | .enrolled =>
      s.execute (.enrollDevice request) = (.error (.alreadyEnrolled request.naturalKey), s)
    | .disabled =>
      s.execute (.enrollDevice request) = (.error (.disabled request.naturalKey), s) := by
  have answer := enrollDevice_answer h request
  rw [found] at answer
  rw [h.execute_eq]
  split
  · next waiting =>
    obtain ⟨s', made⟩ := settle_of_map_ok (answer.trans (if_neg (not_not_intro waiting)))
    exact ⟨_, s', made, rfl⟩
  · next enrolled =>
    refine settle_of_map_error (answer.trans ((if_pos ?_).trans ?_))
    · simp [enrolled]
    · rw [enrolled]
      rfl
  · next disabled =>
    refine settle_of_map_error (answer.trans ((if_pos ?_).trans ?_))
    · simp [disabled]
    · rw [disabled]
      rfl

end Store

/-! ### Whole histories -/

namespace History

variable {start s : Store} {events : List CallEvent}

theorem sound (start_sound : start.Sound) (history : History start events s) : s.Sound := by
  induction history with
  | start => exact start_sound
  | @call _ _ _ call _ _ made ih =>
    have next := ih.perform call
    rw [← ih.execute_eq, made] at next
    exact next

theorem chain (start_sound : start.Sound) {id : String} (absent : start.statusOf id = none)
    (history : History start events s) : Chain id events (s.statusOf id) := by
  induction history with
  | start =>
    rw [absent]
    exact .start
  | @call _ s _ call _ history made ih =>
    have sound := history.sound start_sound
    have step := s.callStep call
    have next := sound.perform call
    rw [← sound.execute_eq, made] at step next
    exact ih.step sound next step

/-- In every history of calls on an empty store the moves of each device form a chain: it starts in
waiting at the registration, an enrollment leads it from waiting to enrolled, an update from exactly
the status that it expects to the one that it sets, and the store shows the device where the chain
ends. A call that fits the chain succeeds; one that does not is refused, says what stands against it
and changes nothing. So between two enrollments of a device it was sent back to wait. The statements
by which a database changes a device do what the call does as a whole. -/
theorem compare_and_set (empty : start = .memory .empty ∨ start = .database .empty)
    (history : History start events s) :
    (∀ id, Chain id events (s.statusOf id)) ∧
    (∀ id status, s.statusOf id = some status → ∀ update : StatusUpdate,
      if status = update.expected then
        ∃ s', s.execute (.updateDeviceStatus id update) = (.ok .done, s')
      else ∃ text, s.execute (.updateDeviceStatus id update) = (.error (.invalidState text), s)) ∧
    (∀ (request : EnrollmentRequest) current,
      s.getDevice request.brand request.model request.serialNumber = .ok current →
      s.statusOf current.id = some current.status ∧
      match current.status with
      | .waiting => ∃ e s', s.execute (.enrollDevice request) = (.ok (.enrollment e), s') ∧
        e.id = current.id
      | .enrolled =>
        s.execute (.enrollDevice request) = (.error (.alreadyEnrolled request.naturalKey), s)
      | .disabled =>
        s.execute (.enrollDevice request) = (.error (.disabled request.naturalKey), s)) ∧
    (∀ id before between after first second,
      events = before ++ first :: between ++ second :: after →
      first.Enrolls id → second.Enrolls id → ∃ x ∈ between, x.Demotes id) ∧
    ∀ call, s.execute call = s.perform call := by
  have start_sound : start.Sound := by
    rcases empty with rfl | rfl
    · exact Store.sound_memory_empty
    · exact Store.sound_database_empty
  have absent : ∀ id, start.statusOf id = none := by
    rcases empty with rfl | rfl
    all_goals exact fun _ => rfl
  have sound := history.sound start_sound
  have chains := fun id => history.chain start_sound (absent id)
  refine ⟨chains, ?update, ?enrollment, ?between, sound.execute_eq⟩
  case update => exact fun _ _ shown update => sound.execute_updateDeviceStatus shown update
  case enrollment =>
    exact fun _ _ found => ⟨sound.statusOf_of_getDevice found, sound.execute_enrollDevice found⟩
  case between =>
    rintro id before between after first second rfl enrolls again
    exact (chains id).demoted_between enrolls again

/-! ### A device that is enrolled twice -/

/-- The enrollment of the device that `Store.withDevice` has, with a key. -/
def keyRequest (deviceKey : String) : EnrollmentRequest :=
  ⟨"b", "m", "s", "", deviceKey⟩

/-- The database with one device, `d`, in a status that it has after some changes. -/
def databaseWith (deviceKey : String) (status : Status) (changes : Nat) : Store :=
  .database {
    organizations := some [⟨"o", "acme", "", "", ""⟩]
    stored := some [{
      row := ⟨"d", "o", ⟨"b", "m", "s", "", deviceKey⟩, ⟨"", "", "", ""⟩, status.code, ""⟩
      created := 0
      modified := changes }]
    writes := changes + 1 }

/-- The device after an enrollment with a key. -/
def enrolledWith (deviceKey : String) : Enrollment :=
  ⟨"d", ⟨"b", "m", "s", "", deviceKey⟩, ⟨"", "", "", ""⟩, ⟨"o", "acme", "", "", ""⟩, .enrolled, ""⟩

/-- The device is registered and enrolled, sent back to wait, and enrolled once more. -/
def reenrollment : List CallEvent :=
  [⟨.createOrganization "o" ⟨"acme", "", "", ""⟩, .ok (.created "o")⟩,
    ⟨.createDevice "d" ⟨"o", "b", "m", "s", ⟨"", "", "", ""⟩⟩, .ok (.created "d")⟩,
    ⟨.enrollDevice (keyRequest "k"), .ok (.enrollment (enrolledWith "k"))⟩,
    ⟨.updateDeviceStatus "d" ⟨.enrolled, .waiting, ""⟩, .ok .done⟩,
    ⟨.enrollDevice (keyRequest "l"), .ok (.enrollment (enrolledWith "l"))⟩]

theorem compare_and_set_reenrollment :
    Chain "d" reenrollment (some .enrolled) ∧ (databaseWith "l" .enrolled 3).execute
      (.enrollDevice (keyRequest "k")) =
        (.error (.alreadyEnrolled "b/m/s"), databaseWith "l" .enrolled 3) := by
  have organization : History (.database .empty) (reenrollment.take 1)
      (.database ⟨some [⟨"o", "acme", "", "", ""⟩], some [], 0⟩) :=
    History.start.call (by rfl)
  have device : History (.database .empty) (reenrollment.take 2) (databaseWith "" .waiting 0) :=
    organization.call (by rfl)
  have enrolled : History (.database .empty) (reenrollment.take 3) (databaseWith "k" .enrolled 1) :=
    device.call (by rfl)
  have waiting : History (.database .empty) (reenrollment.take 4) (databaseWith "k" .waiting 2) :=
    enrolled.call (by rfl)
  have again : History (.database .empty) reenrollment (databaseWith "l" .enrolled 3) :=
    waiting.call (by rfl)
  obtain ⟨chain, _, refused, _, _⟩ := compare_and_set (.inr rfl) again
  exact ⟨chain "d", (refused (keyRequest "k") (enrolledWith "l") rfl).2⟩

end History

end FleetIdentity
