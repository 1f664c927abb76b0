import FleetIdentity.Proofs.Service.EnrolledDevice
import FleetIdentity.Proofs.Store.Histories

/-!
# Changes of status with calls of others in between

A change of status reads the device and later writes it, and other callers may call the store
between the two. The write is refused if the status is not the one that was read; the data that it
carries are compared with nothing. So a write that succeeds leaves the data that were read, and what
others have written to the device in between is kept only if it was just that.

Calls of the store are atomic here; what is interleaved are whole calls.
-/

namespace FleetIdentity

namespace CallEvent

/-- The data that an event tells to be written to a device. -/
def data? (id : String) : CallEvent → Option String
  | ⟨.updateDeviceStatus updated update, .ok _⟩ =>
    if updated = id then some update.deviceData else none
  | ⟨.updateDeviceData written deviceData, .ok _⟩ => if written = id then some deviceData else none
  | _ => none

/-- The data that the events tell to be written to a device last. -/
def lastData (id : String) (events : List CallEvent) : Option String :=
  events.reverse.findSome? (data? id)

theorem data?_error (id : String) (call : Call) (e : IdentityError) :
    data? id ⟨call, .error e⟩ = none := by
  cases call <;> rfl

theorem data?_apart {id : String} {call : Call} (apart : call.changesDevices = false)
    (answer : Answer) : data? id ⟨call, .ok answer⟩ = none := by
  cases call with
  | createDevice | enrollDevice | updateDeviceStatus | updateDeviceData => cases apart
  | _ => rfl

theorem lastData_cons (id : String) (x : CallEvent) (events : List CallEvent) :
    lastData id (x :: events) = (lastData id events).or (x.data? id) := by
  rw [lastData, List.reverse_cons, List.findSome?_append, lastData, List.findSome?_singleton]

end CallEvent

namespace Store

variable {s s' : Store} {id data : String}

/-- The store after calls. -/
def performAll (s : Store) (calls : List Call) : Store :=
  calls.foldl (fun s call => (s.perform call).2) s

/-- The events of calls. -/
def record (s : Store) : List Call → List CallEvent
  | [] => []
  | call :: calls => ⟨call, (s.perform call).1⟩ :: record (s.perform call).2 calls

theorem Sound.performAll (h : s.Sound) (calls : List Call) : (s.performAll calls).Sound := by
  induction calls generalizing s with
  | nil => exact h
  | cons call calls ih => exact ih (h.perform call)

/-- A step leaves a device the data that it writes to it, or else the data that it had. -/
theorem Sound.dataOf_step (h : s.Sound) (h' : s'.Sound) {call : Call}
    {outcome : Except IdentityError Answer} (step : CallStep s s' call outcome)
    (shown : s.dataOf id = some data) :
    s'.dataOf id = some ((CallEvent.data? id ⟨call, outcome⟩).getD data) := by
  have replaced {old r : DeviceRow} (mem : old ∈ s.rows) (id_eq : r.id = old.id)
      (rows_eq : s'.rows = DeviceRow.replaceIn s.rows r) :
      s'.dataOf id = some (if r.id = id then r.deviceData else data) := by
    rw [h'.dataOf_eq, row?_replaceIn mem id_eq rows_eq id]
    split
    · rfl
    · rw [← h.dataOf_eq, shown]
  cases step with
  | failed same => rw [CallEvent.data?_error, same, shown, Option.getD_none]
  | apart apart rows_eq =>
    rw [CallEvent.data?_apart apart, h'.dataOf_eq, row?, rows_eq, ← row?, ← h.dataOf_eq, shown,
      Option.getD_none]
  | @created created new free rows_eq =>
    have there : s.row? created = none :=
      List.find?_eq_none.2 fun r mem => by simpa using free r mem
    have other : created ≠ id := by
      rintro rfl
      rw [h.dataOf_eq, there] at shown
      cases shown
    have other_row : (new.row created).id ≠ id := other
    rw [h'.dataOf_eq, row?_append free rows_eq id, if_neg other_row, ← h.dataOf_eq, shown]
    rfl
  | @enrolled request e row mem waiting id_eq rows_eq =>
    rw [replaced (r := row.enrolled request) mem rfl rows_eq]
    by_cases hit : row.id = id
    · have seen : some row.deviceData = some data := by
        rw [← shown, h.dataOf_eq, ← hit, h.row?_of_mem mem, Option.map_some]
      exact congrArg some ((if_pos hit).trans (Option.some.inj seen))
    · exact congrArg some (if_neg hit)
  | @updated update row mem expected rows_eq =>
    rw [replaced (r := row.updated update) mem rfl rows_eq, CallEvent.data?]
    show some (if row.id = id then update.deviceData else data) = _
    split <;> rfl
  | @written deviceData row mem rows_eq =>
    rw [replaced (r := { row with deviceData }) mem rfl rows_eq, CallEvent.data?]
    split <;> rfl

/-- After calls a device has the data that were last written to it, if any were. -/
theorem Sound.dataOf_performAll (h : s.Sound) (shown : s.dataOf id = some data)
    (calls : List Call) : (s.performAll calls).dataOf id =
      some ((CallEvent.lastData id (s.record calls)).getD data) := by
  induction calls generalizing s data with
  | nil => exact shown
  | cons call calls ih =>
    have next := h.perform call
    rw [record, CallEvent.lastData_cons, Option.getD_or]
    exact ih next (h.dataOf_step next (s.callStep call) shown)

end Store

namespace IdentityService

open StoreCall

variable {s s' : Store} {deviceId : String} {target : Status} {others : List Call}

/-- Calls of other callers. -/
def callsOf (others : List Call) : StoreCall Unit :=
  fun s => (.ok (), s.performAll others)

/-- Moves a device to a status, without new data; others make calls between the read and the
write. -/
def updateStatusAround (deviceId : String) (target : Status) (others : List Call) :
    StoreCall StatusChange := do
  if target = .enrolled then
    throw (.forbiddenTransition "enrolled is only reachable by enrolling the device")
  let current ← .read fun store => store.getDeviceById deviceId
  callsOf others
  match ← (.ofExcept (current.planUpdate target current.deviceData) :
      StoreCall (Option StatusUpdate)) with
  | none => return { previous := current.status, current := current.status }
  | some update => do
    .write fun store => store.updateDeviceStatus deviceId update
    return { previous := current.status, current := update.status }

/-- Without calls of others this is the change of status. -/
theorem updateStatusAround_nil (deviceId : String) (target : Status) (s : Store) :
    (updateStatusAround deviceId target []).runOn s =
      (updateStatus deviceId target none).runOn s := by
  rw [updateStatusAround, updateStatus]
  split
  · rfl
  · cases found : s.getDeviceById deviceId with
    | error e =>
      have failed : (StoreCall.read fun store => store.getDeviceById deviceId).runOn s =
          (.error e, s) := congrArg (·, s) found
      rw [runOn_bind_of_error failed, runOn_bind_of_error failed]
    | ok current =>
      have got : (StoreCall.read fun store => store.getDeviceById deviceId).runOn s =
          (.ok current, s) := congrArg (·, s) found
      have silent : (callsOf []).runOn s = (.ok (), s) := rfl
      have kept : (writeData current none).runOn s = (.ok current.deviceData, s) := rfl
      rw [runOn_bind_of_ok got, runOn_bind_of_ok got, runOn_bind_of_ok silent]
      exact Eq.symm (runOn_bind_of_ok kept)

/-- What a change of status with calls of others in between does when it succeeds: nothing, or the
one write that was planned on what was read. -/
theorem updateStatusAround_ok {change : StatusChange}
    (done : (updateStatusAround deviceId target others).runOn s = (.ok change, s')) :
    ∃ current, s.getDeviceById deviceId = .ok current ∧ change = ⟨current.status, target⟩ ∧
      (change.isNoop = true ∧ s' = s.performAll others ∨ change.isNoop = false ∧
        (s.performAll others).updateDeviceStatus deviceId
          ⟨current.status, target, current.deviceData⟩ = .ok ((), s')) := by
  rw [updateStatusAround] at done
  by_cases enrolled : target = .enrolled
  · rw [if_pos enrolled] at done
    cases done
  rw [if_neg enrolled] at done
  obtain ⟨current, t, read, rest⟩ := runOn_bind_eq_ok_iff.1 done
  obtain ⟨found, rfl⟩ := runOn_read_eq_ok_iff.1 read
  have called : (callsOf others).runOn t = (.ok (), t.performAll others) := rfl
  rw [runOn_bind_of_ok called, planUpdate_of_ne current enrolled] at rest
  refine ⟨current, found, ?_⟩
  by_cases there : current.status = target
  · rw [if_pos there] at rest
    cases rest
    refine ⟨by rw [there], .inl ⟨?_, rfl⟩⟩
    exact beq_iff_eq.2 rfl
  · rw [if_neg there] at rest
    obtain ⟨_, u, written, rest⟩ := runOn_bind_eq_ok_iff.1 rest
    cases written
    obtain ⟨_, u, written, rest⟩ := runOn_bind_eq_ok_iff.1 rest
    cases rest
    refine ⟨rfl, .inr ⟨?_, runOn_write_eq_ok_iff.1 written⟩⟩
    exact beq_eq_false_iff_ne.2 there

/-- After a change of status without data a device has the data that the change has read, whatever
others have written in between; only a change that is none leaves what they wrote. So the data that
others left are kept exactly if the change is none or what they wrote last is what had been read. -/
theorem updateStatusAround_keeps_iff (h : s.Reachable) {change : StatusChange}
    (done : (updateStatusAround deviceId target others).runOn s = (.ok change, s')) :
    ∃ read left kept, s.dataOf deviceId = some read ∧
      (s.performAll others).dataOf deviceId = some left ∧ s'.dataOf deviceId = some kept ∧
      left = (CallEvent.lastData deviceId (s.record others)).getD read ∧
      kept = (if change.isNoop then left else read) ∧
      (kept = left ↔ change.isNoop = true ∨
        ∀ written, CallEvent.lastData deviceId (s.record others) = some written →
          written = read) := by
  obtain ⟨current, found, rfl, ended⟩ := updateStatusAround_ok done
  have sound := h.sound
  have between := sound.performAll others
  have seen : s.dataOf deviceId = some current.deviceData := by
    rw [Store.dataOf, found]
    rfl
  have left := sound.dataOf_performAll seen others
  refine ⟨_, _, _, seen, left, ?kept, rfl, rfl, ?iff⟩
  case kept =>
    rcases ended with ⟨noop, rfl⟩ | ⟨moved, made⟩
    · rw [left, noop, if_pos rfl]
    · obtain ⟨row, mem, rfl, _, becomes⟩ := Store.updateDeviceStatus_ok made
      have row?_eq := Store.row?_replaceIn (r := row.updated _) mem rfl becomes.rows_eq row.id
      have id_eq : (row.updated ⟨current.status, target, current.deviceData⟩).id = row.id := rfl
      rw [(between.write (.updateDeviceStatus made)).dataOf_eq, row?_eq, if_pos id_eq, moved]
      rfl
  case iff =>
    cases StatusChange.isNoop _ with
    | true => simp
    | false =>
      cases CallEvent.lastData deviceId (s.record others) with
      | none => simp
      | some written => simp [eq_comm]

/-! ### Data that are written in between and lost -/

/-- A device is disabled while another caller writes its data. -/
theorem updateStatusAround_run_slash :
    (updateStatusAround "d" .disabled [.updateDeviceData "d" "new"]).runOn
      (Store.withDevice slashDevice .waiting) =
        (.ok ⟨.waiting, .disabled⟩, Store.withDevice slashDevice .disabled) := by
  decide +kernel

theorem updateStatusAround_keeps_iff_slash : ∃ left kept,
    ((Store.withDevice slashDevice .waiting).performAll [.updateDeviceData "d" "new"]).dataOf "d" =
      some left ∧ (Store.withDevice slashDevice .disabled).dataOf "d" = some kept ∧
      left = "new" ∧ kept ≠ left := by
  obtain ⟨read, left, kept, seen, there, shown, last, _, iff⟩ :=
    updateStatusAround_keeps_iff reachable_slash updateStatusAround_run_slash
  have last_data : CallEvent.lastData "d" ((Store.withDevice slashDevice .waiting).record
      [.updateDeviceData "d" "new"]) = some "new" := by
    decide +kernel
  have read_eq : read = "" := Option.some.inj (seen.symm.trans rfl)
  rw [last_data] at last
  refine ⟨left, kept, there, shown, last, fun same => ?_⟩
  rcases iff.1 same with noop | all
  · exact absurd noop (by decide)
  · exact absurd ((all "new" last_data).trans read_eq) (by decide)

/-- The data that another caller has written are overwritten by those that had been read before. -/
theorem updateStatusAround_loses_data : ¬ ∀ (s s' : Store) (deviceId : String) (target : Status)
    (others : List Call) (change : StatusChange), s.Reachable →
      (updateStatusAround deviceId target others).runOn s = (.ok change, s') →
      change.isNoop = false → s'.dataOf deviceId = (s.performAll others).dataOf deviceId := by
  intro claim
  have kept := claim _ _ _ _ _ _ reachable_slash updateStatusAround_run_slash (by decide)
  exact absurd kept (by decide +kernel)

end IdentityService

end FleetIdentity
