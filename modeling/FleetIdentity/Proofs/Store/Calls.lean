import FleetIdentity.Proofs.Store.Soundness

/-!
# The calls of a store as data

A call names one of the eleven operations with its arguments, so that what clients do to a store is
a list of calls. The ids of new organizations and devices are arguments here; those of organizations
are generated, and `Call.FreshFor` says of one that no stored organization has it.

Nothing is assumed of the answers: a call that fails leaves the store as it is, and the next one is
made on that store.
-/

namespace FleetIdentity

/-- A call of a store. -/
inductive Call where
  | createOrganization (id : String) (new : NewOrganization)
  | getOrganization (id : String)
  | getOrganizationByName (name : String)
  | listOrganizations
  | createDevice (id : String) (new : NewDevice)
  | getDevice (brand model serialNumber : String)
  | getDeviceById (id : String)
  | enrollDevice (request : EnrollmentRequest)
  | updateDeviceStatus (id : String) (update : StatusUpdate)
  | updateDeviceData (id deviceData : String)
  | listDevices (organizationId : String)

/-- What a call gives when it succeeds. -/
inductive Answer where
  | created (id : String)
  | organization (o : Organization)
  | organizations (listed : List Organization)
  | enrollment (e : Enrollment)
  | enrollments (listed : List Enrollment)
  | done

/-- The answer of a write and the state that it leaves. -/
def settle {σ α : Type} (s : σ) (toAnswer : α → Answer) :
    Except IdentityError (α × σ) → Except IdentityError Answer × σ
  | .ok (a, s') => (.ok (toAnswer a), s')
  | .error e => (.error e, s)

/-- What a list of calls is answered, each made on the state that the one before it left. -/
def outcomes {σ : Type} (perform : σ → Call → Except IdentityError Answer × σ) :
    σ → List Call → List (Except IdentityError Answer)
  | _, [] => []
  | s, call :: calls => (perform s call).1 :: outcomes perform (perform s call).2 calls

/-- The id that the call brings for a new organization is none of those. -/
def Call.FreshFor (organizations : List Organization) : Call → Prop
  | .createOrganization id _ => ∀ o ∈ organizations, o.id ≠ id
  | _ => True

theorem settle_fst {σ α : Type} (s : σ) (toAnswer : α → Answer)
    (outcome : Except IdentityError (α × σ)) :
    (settle s toAnswer outcome).1 = (outcome.map (·.1)).map toAnswer := by
  cases outcome <;> rfl

theorem settle_snd {σ α : Type} (s : σ) (toAnswer : α → Answer)
    (outcome : Except IdentityError (α × σ)) : (settle s toAnswer outcome).2 = s ∨
      ∃ a, outcome = .ok (a, (settle s toAnswer outcome).2) := by
  cases outcome with
  | error e => exact .inl rfl
  | ok pair => exact .inr ⟨pair.1, rfl⟩

namespace Store

variable {s s' : Store}

/-- Makes a call. -/
def perform (s : Store) : Call → Except IdentityError Answer × Store
  | .createOrganization id new => settle s .created (s.createOrganization id new)
  | .getOrganization id => ((s.getOrganization id).map .organization, s)
  | .getOrganizationByName name => ((s.getOrganizationByName name).map .organization, s)
  | .listOrganizations => (s.listOrganizations.map .organizations, s)
  | .createDevice id new => settle s .created (s.createDevice id new)
  | .getDevice brand model serialNumber =>
    ((s.getDevice brand model serialNumber).map .enrollment, s)
  | .getDeviceById id => ((s.getDeviceById id).map .enrollment, s)
  | .enrollDevice request => settle s .enrollment (s.enrollDevice request)
  | .updateDeviceStatus id update => settle s (fun _ => .done) (s.updateDeviceStatus id update)
  | .updateDeviceData id deviceData => settle s (fun _ => .done) (s.updateDeviceData id deviceData)
  | .listDevices organizationId => ((s.listDevices organizationId).map .enrollments, s)

/-- Each call of the list is fresh for the store that it is made on. -/
def FreshRun : Store → List Call → Prop
  | _, [] => True
  | s, call :: calls => call.FreshFor s.organizations ∧ FreshRun (s.perform call).2 calls

/-- The stores that calls make out of an empty one. -/
inductive Attained : Store → Prop where
  | memory : Attained (.memory .empty)
  | database : Attained (.database .empty)
  | perform {s : Store} (attained : Attained s) (call : Call)
    (fresh : call.FreshFor s.organizations) : Attained (s.perform call).2

theorem perform_write (s : Store) (call : Call) :
    (s.perform call).2 = s ∨ s.Write (s.perform call).2 := by
  cases call with
  | createOrganization id new =>
    exact (settle_snd _ _ _).imp_right fun ⟨_, made⟩ => .createOrganization made
  | createDevice id new =>
    exact (settle_snd _ _ _).imp_right fun ⟨_, made⟩ => .createDevice made
  | enrollDevice request =>
    exact (settle_snd _ _ _).imp_right fun ⟨_, made⟩ => .enrollDevice made
  | updateDeviceStatus id update =>
    exact (settle_snd _ _ _).imp_right fun ⟨_, made⟩ => .updateDeviceStatus made
  | updateDeviceData id deviceData =>
    exact (settle_snd _ _ _).imp_right fun ⟨_, made⟩ => .updateDeviceData made
  | getOrganization | getOrganizationByName | listOrganizations | getDevice | getDeviceById
  | listDevices => exact .inl rfl

theorem Reachable.perform (h : s.Reachable) (call : Call) : (s.perform call).2.Reachable := by
  rcases s.perform_write call with same | write
  · rw [same]
    exact h
  · exact h.step write

theorem Reachable.performAll (h : s.Reachable) (calls : List Call) :
    (calls.foldl (fun s call => (s.perform call).2) s).Reachable := by
  induction calls generalizing s with
  | nil => exact h
  | cons call calls ih => exact ih (h.perform call)

theorem Attained.reachable (h : s.Attained) : s.Reachable := by
  induction h with
  | memory => exact .memory
  | database => exact .database
  | perform _ call _ ih => exact ih.perform call

theorem Attained.sound (h : s.Attained) : s.Sound :=
  h.reachable.sound

theorem Sound.perform (h : s.Sound) (call : Call) : (s.perform call).2.Sound := by
  rcases s.perform_write call with same | write
  · rw [same]
    exact h
  · exact h.write write

/-! ### The organizations -/

theorem perform_organizations (s : Store) (call : Call) :
    (s.perform call).2.organizations = s.organizations ∨
      ∃ id new, call = .createOrganization id new ∧ (∀ o ∈ s.organizations, o.name ≠ new.name) ∧
        (s.perform call).2.organizations = s.organizations ++
          [⟨id, new.name, new.country, new.rootKey, new.rootCert⟩] := by
  have unchanged {α : Type} {toAnswer : α → Answer} {outcome : Except IdentityError (α × Store)}
      (kept : ∀ a s', outcome = .ok (a, s') → s'.organizations = s.organizations) :
      (settle s toAnswer outcome).2.organizations = s.organizations := by
    rcases settle_snd s toAnswer outcome with same | ⟨a, made⟩
    · rw [same]
    · exact kept _ _ made
  cases call with
  | createOrganization id new =>
    rcases settle_snd s Answer.created (s.createOrganization id new) with same | ⟨a, made⟩
    · exact .inl (congrArg organizations same)
    · obtain ⟨_, _, free, becomes⟩ := createOrganization_ok made
      exact .inr ⟨id, new, rfl, free, becomes.organizations_eq⟩
  | createDevice id new =>
    refine .inl (unchanged fun _ _ made => ?_)
    obtain ⟨_, _, _, _, becomes⟩ := createDevice_ok made
    exact becomes.organizations_eq
  | enrollDevice request =>
    refine .inl (unchanged fun _ _ made => ?_)
    obtain ⟨_, _, _, _, _, _, _, _, becomes⟩ := enrollDevice_ok made
    exact becomes.organizations_eq
  | updateDeviceStatus id update =>
    refine .inl (unchanged fun _ _ made => ?_)
    obtain ⟨_, _, _, _, becomes⟩ := updateDeviceStatus_ok made
    exact becomes.organizations_eq
  | updateDeviceData id deviceData =>
    refine .inl (unchanged fun _ _ made => ?_)
    obtain ⟨_, _, _, becomes⟩ := updateDeviceData_ok made
    exact becomes.organizations_eq
  | getOrganization | getOrganizationByName | listOrganizations | getDevice | getDeviceById
  | listDevices => exact .inl rfl

/-- The names and the ids of the organizations are distinct. -/
structure Unmixed (s : Store) : Prop where
  names : (s.organizations.map (·.name)).Nodup
  ids : (s.organizations.map (·.id)).Nodup

theorem Unmixed.perform (h : s.Unmixed) {call : Call} (fresh : call.FreshFor s.organizations) :
    (s.perform call).2.Unmixed := by
  rcases s.perform_organizations call with same | ⟨id, new, rfl, free, grown⟩
  · exact ⟨same ▸ h.names, same ▸ h.ids⟩
  · constructor
    · rw [grown, List.map_append, List.map_singleton, ← List.concat_eq_append]
      refine h.names.concat fun taken => ?_
      obtain ⟨o, mem, same⟩ := List.mem_map.1 taken
      exact free o mem same
    · rw [grown, List.map_append, List.map_singleton, ← List.concat_eq_append]
      refine h.ids.concat fun taken => ?_
      obtain ⟨o, mem, same⟩ := List.mem_map.1 taken
      exact fresh o mem same

theorem Attained.unmixed (h : s.Attained) : s.Unmixed := by
  induction h with
  | memory => exact ⟨.nil, .nil⟩
  | database => exact ⟨.nil, .nil⟩
  | perform _ _ fresh ih => exact ih.perform fresh

end Store

end FleetIdentity
