import FleetIdentity.Proofs.Service.EnrolledDevice
import FleetIdentity.Proofs.Store.OneDevice
import Mathlib.Data.List.Induction

/-!
# What updates by an administrator do

An update to `enrolled` is refused before anything is looked up, and any other one of a device that
the store does not have is refused as not found. Every other update succeeds: the device then has
the status and the data that were asked for, and nothing else changes. So several updates of one
device leave the last status that an update may give and the last data that came with such a status,
and an update that is made twice in a row is as good as one.

The steps in between, where the data are written before the status is compared, show in none of
this. Updates while other calls change the device are not described.
-/

namespace FleetIdentity.IdentityService

open StoreCall

variable {s : Store} {e : Enrollment} {deviceId : String}

/-- A status to move to, with the new data if there are any. -/
abbrev Update := Status × Option String

/-- The store after updates of one device, whether they succeed or not. -/
def afterUpdates (s : Store) (deviceId : String) (updates : List Update) : Store :=
  updates.foldl (fun t u => ((updateStatus deviceId u.1 u.2).runOn t).2) s

/-- The updates that may be made: those to another status than `enrolled`. -/
def admissible (updates : List Update) : List Update :=
  updates.filter fun u => u.1 ≠ .enrolled

/-- The last status that an update may give. -/
def lastTarget (updates : List Update) : Option Status :=
  ((admissible updates).map (·.1)).getLast?

/-- The last data that came with a status that an update may give. -/
def lastData (updates : List Update) : Option String :=
  ((admissible updates).filterMap (·.2)).getLast?

/-- The enrollment with the last status and the last data that updates give. -/
def updatedBy (e : Enrollment) (updates : List Update) : Enrollment :=
  { e with
    status := (lastTarget updates).getD e.status
    deviceData := (lastData updates).getD e.deviceData }

/-- Everything that updates of one device do to a store. -/
structure UpdatesExactly (s : Store) (deviceId : String) : Prop where
  forbidden : ∀ deviceData, (updateStatus deviceId .enrolled deviceData).runOn s =
    (.error (.forbiddenTransition "enrolled is only reachable by enrolling the device"), s)
  unknown : (∀ r ∈ s.rows, r.id ≠ deviceId) → ∀ target deviceData, target ≠ .enrolled →
    (updateStatus deviceId target deviceData).runOn s = (.error (.deviceNotFound deviceId), s)
  known : (∃ r ∈ s.rows, r.id = deviceId) → ∃ e, s.getDeviceById deviceId = .ok e
  updated : ∀ e, s.getDeviceById deviceId = .ok e → ∀ target deviceData, target ≠ .enrolled →
    ∃ s', (updateStatus deviceId target deviceData).runOn s = (.ok ⟨e.status, target⟩, s') ∧
      s.ChangesOnly s' (e.administered target deviceData)
  sequence : ∀ e, s.getDeviceById deviceId = .ok e → ∀ updates,
    s.ChangesOnly (afterUpdates s deviceId updates) (updatedBy e updates)
  repeated : ∀ updates u, afterUpdates s deviceId (updates ++ [u, u]) =
    afterUpdates s deviceId (updates ++ [u])

/-! ### One update -/

theorem updateStatus_enrolled (deviceId : String) (deviceData : Option String) (s : Store) :
    (updateStatus deviceId .enrolled deviceData).runOn s =
      (.error (.forbiddenTransition "enrolled is only reachable by enrolling the device"), s) :=
  rfl

theorem updateStatus_unknown (h : s.Sound) (unknown : ∀ r ∈ s.rows, r.id ≠ deviceId)
    {target : Status} (waits : target ≠ .enrolled) (deviceData : Option String) :
    (updateStatus deviceId target deviceData).runOn s =
      (.error (.deviceNotFound deviceId), s) := by
  have missing : s.getDeviceById deviceId = .error (.deviceNotFound deviceId) := by
    have absent : s.rows.find? (·.id == deviceId) = none :=
      List.find?_eq_none.2 fun r mem => by simpa using unknown r mem
    rw [Store.getDeviceById_eq h, Store.readRow, absent]
    rfl
  rw [updateStatus, if_neg waits]
  exact runOn_bind_of_error (congrArg (·, s) missing)

theorem updateStatus_changesOnly (h : s.Sound) (read : s.getDeviceById deviceId = .ok e)
    {target : Status} (waits : target ≠ .enrolled) (deviceData : Option String) :
    ∃ s', (updateStatus deviceId target deviceData).runOn s = (.ok ⟨e.status, target⟩, s') ∧
      s'.Sound ∧ s.ChangesOnly s' (e.administered target deviceData) := by
  obtain ⟨known, rfl⟩ := (Store.getDeviceById_eq_ok_iff h).1 read
  obtain ⟨r, mem, shown⟩ := Store.mem_enrollments.1 known
  obtain ⟨o, status, owner, code, rfl⟩ := Store.enrollment?_eq_some_iff.1 shown
  obtain ⟨other, s', same, run, becomes⟩ := updateStatus_of_mem h mem waits deviceData
  obtain rfl : status = other := Status.code_inj.1 (code.symm.trans same)
  have sound : s'.Sound := h.replace mem becomes rfl rfl rfl ⟨target, rfl⟩
  have id_eq : (r.administered target deviceData).id = r.id := rfl
  exact ⟨s', run, sound, h.changesOnly sound mem id_eq becomes
    (Store.enrollment?_administered shown target deviceData)⟩

/-- An update to what is there already writes nothing. -/
theorem updateStatus_same (read : s.getDeviceById deviceId = .ok e) (waits : e.status ≠ .enrolled)
    {deviceData : Option String} (same : deviceData.getD e.deviceData = e.deviceData) :
    (updateStatus deviceId e.status deviceData).runOn s = (.ok ⟨e.status, e.status⟩, s) := by
  have got : (StoreCall.read fun store => store.getDeviceById deviceId).runOn s = (.ok e, s) :=
    runOn_read_eq_ok_iff.2 ⟨read, rfl⟩
  have kept : (writeData e deviceData).runOn s = (.ok e.deviceData, s) := by
    cases deviceData with
    | none => rfl
    | some data =>
      obtain rfl : data = e.deviceData := same
      rw [writeData, if_pos rfl]
      rfl
  have planned : e.planUpdate e.status e.deviceData = .ok none :=
    (planUpdate_of_ne e waits _).trans (congrArg Except.ok (if_pos rfl))
  rw [updateStatus, if_neg waits, runOn_bind_of_ok got, runOn_bind_of_ok kept,
    runOn_bind_of_ok (runOn_ofExcept_eq_ok_iff.2 ⟨planned, rfl⟩)]
  rfl

/-- An update that does not fail is a change of one device. -/
theorem updateStatus_cases (h : s.Sound) (deviceId : String) (target : Status)
    (deviceData : Option String) :
    (∃ failure, (updateStatus deviceId target deviceData).runOn s = (.error failure, s)) ∨
      ∃ e s', s.getDeviceById deviceId = .ok e ∧ target ≠ .enrolled ∧
        (updateStatus deviceId target deviceData).runOn s = (.ok ⟨e.status, target⟩, s') ∧
        s'.Sound ∧ s.ChangesOnly s' (e.administered target deviceData) := by
  by_cases enrolled : target = .enrolled
  · subst enrolled
    exact .inl ⟨_, updateStatus_enrolled deviceId deviceData s⟩
  by_cases known : ∃ r ∈ s.rows, r.id = deviceId
  · obtain ⟨r, mem, rfl⟩ := known
    obtain ⟨o, status, read, _⟩ := h.getDeviceById_of_mem mem
    obtain ⟨s', run, sound, changes⟩ := updateStatus_changesOnly h read enrolled deviceData
    exact .inr ⟨_, s', read, enrolled, run, sound, changes⟩
  · have unknown : ∀ r ∈ s.rows, r.id ≠ deviceId := fun r mem same => known ⟨r, mem, same⟩
    exact .inl ⟨_, updateStatus_unknown h unknown enrolled deviceData⟩

/-- An update that is made a second time changes nothing. -/
theorem updateStatus_twice (h : s.Sound) (deviceId : String) (target : Status)
    (deviceData : Option String) {t : Store}
    (once : ((updateStatus deviceId target deviceData).runOn s).2 = t) :
    ((updateStatus deviceId target deviceData).runOn t).2 = t := by
  rcases updateStatus_cases h deviceId target deviceData with
    ⟨failure, run⟩ | ⟨e, s', read, waits, run, _, changes⟩
  · obtain rfl : s = t := by rw [← once, run]
    rw [run]
  · obtain rfl : s' = t := by rw [← once, run]
    obtain ⟨_, rfl⟩ := (Store.getDeviceById_eq_ok_iff h).1 read
    have now : s'.getDeviceById e.id = .ok (e.administered target deviceData) := changes.read_self
    have same : deviceData.getD (e.administered target deviceData).deviceData =
        (e.administered target deviceData).deviceData := by
      cases deviceData with
      | none => rfl
      | some data => rfl
    exact congrArg Prod.snd (updateStatus_same now waits same)

/-! ### Several updates -/

theorem afterUpdates_concat (s : Store) (deviceId : String) (updates : List Update) (u : Update) :
    afterUpdates s deviceId (updates ++ [u]) =
      ((updateStatus deviceId u.1 u.2).runOn (afterUpdates s deviceId updates)).2 := by
  rw [afterUpdates, List.foldl_concat, ← afterUpdates]

theorem updatedBy_concat (e : Enrollment) (updates : List Update) (u : Update) :
    updatedBy e (updates ++ [u]) =
      if u.1 = .enrolled then updatedBy e updates
      else (updatedBy e updates).administered u.1 u.2 := by
  have split : admissible (updates ++ [u]) = admissible updates ++ admissible [u] :=
    List.filter_append _ _
  by_cases enrolled : u.1 = .enrolled
  · have none_more : admissible [u] = [] := by simp [admissible, enrolled]
    rw [if_pos enrolled, updatedBy, lastTarget, lastData, split, none_more, List.append_nil,
      updatedBy, lastTarget, lastData]
  · have one_more : admissible [u] = [u] := by simp [admissible, enrolled]
    rw [if_neg enrolled, updatedBy, lastTarget, lastData, split, one_more]
    cases data : u.2 with
    | none => simp [updatedBy, lastData, Enrollment.administered, data]
    | some text => simp [updatedBy, Enrollment.administered, data]

theorem sound_afterUpdates (h : s.Sound) (deviceId : String) (updates : List Update) :
    (afterUpdates s deviceId updates).Sound := by
  induction updates using List.reverseRecOn with
  | nil => exact h
  | append_singleton updates u ih =>
    rw [afterUpdates_concat]
    rcases updateStatus_cases ih deviceId u.1 u.2 with
      ⟨failure, run⟩ | ⟨e, s', _, _, run, sound, _⟩
    · rw [run]
      exact ih
    · rw [run]
      exact sound

/-- Updates of one device leave the last status and the last data that they give. -/
theorem afterUpdates_changesOnly (h : s.Sound) (read : s.getDeviceById deviceId = .ok e)
    (updates : List Update) :
    s.ChangesOnly (afterUpdates s deviceId updates) (updatedBy e updates) := by
  obtain ⟨_, rfl⟩ := (Store.getDeviceById_eq_ok_iff h).1 read
  induction updates using List.reverseRecOn with
  | nil => exact h.changesOnly_self read
  | append_singleton updates u ih =>
    have sound := sound_afterUpdates h e.id updates
    have now : (afterUpdates s e.id updates).getDeviceById e.id = .ok (updatedBy e updates) :=
      ih.read_self
    rw [afterUpdates_concat, updatedBy_concat]
    by_cases enrolled : u.1 = .enrolled
    · rw [if_pos enrolled, enrolled, updateStatus_enrolled]
      exact ih
    · obtain ⟨s', run, _, later⟩ := updateStatus_changesOnly sound now enrolled u.2
      rw [if_neg enrolled, run]
      exact ih.trans later rfl

theorem afterUpdates_repeated (h : s.Sound) (updates : List Update) (u : Update) :
    afterUpdates s deviceId (updates ++ [u, u]) = afterUpdates s deviceId (updates ++ [u]) := by
  have split : updates ++ [u, u] = (updates ++ [u]) ++ [u] := by simp
  rw [split, afterUpdates_concat]
  exact updateStatus_twice (sound_afterUpdates h deviceId updates) deviceId u.1 u.2
    (afterUpdates_concat s deviceId updates u).symm

/-- Updates of one device do exactly what is asked for, in every store. -/
theorem updateStatus_exact (reached : s.Reachable) (deviceId : String) :
    UpdatesExactly s deviceId where
  forbidden deviceData := updateStatus_enrolled deviceId deviceData s
  unknown absent _ deviceData waits := updateStatus_unknown reached.sound absent waits deviceData
  known := by
    rintro ⟨r, mem, rfl⟩
    obtain ⟨o, status, read, _⟩ := reached.sound.getDeviceById_of_mem mem
    exact ⟨_, read⟩
  updated e read target deviceData waits := by
    obtain ⟨s', run, _, changes⟩ := updateStatus_changesOnly reached.sound read waits deviceData
    exact ⟨s', run, changes⟩
  sequence e read updates := afterUpdates_changesOnly reached.sound read updates
  repeated updates u := afterUpdates_repeated reached.sound updates u

theorem updateStatus_exact_slash :
    (Store.withDevice slashDevice .waiting).ChangesOnly
      (afterUpdates (Store.withDevice slashDevice .waiting) "d"
        [(.waiting, some "lost"), (.disabled, none), (.enrolled, some "found")])
      { slashWaiting with status := .disabled, deviceData := "lost" } := by
  have read : (Store.withDevice slashDevice .waiting).getDeviceById "d" = .ok slashWaiting := by
    decide +kernel
  exact (updateStatus_exact reachable_slash "d").sequence slashWaiting read _

end FleetIdentity.IdentityService
