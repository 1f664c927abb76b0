import FleetIdentity.Proofs.Service.StoreCalls
import FleetIdentity.Proofs.Store.Redaction
import FleetIdentity.Service.Enrollment
import FleetIdentity.Service.Registration
import FleetIdentity.Service.StatusChange

/-!
# Service calls that do not depend on the keys of organizations

Two stores that differ at most in keys are compared. A call is blind if it is answered alike on
both, up to keys in the answer, and leaves stores that differ at most in the keys that were
different before: organizations that it adds are equal on both sides.

The registration of a device is not blind. It signs with the key of the organization, and what is
signed is stored.
-/

namespace FleetIdentity

/-- Two stores that differ at most in keys, and only in those of the first organizations. -/
structure Store.SameButKeys (old old' : List Organization) (s t : Store) : Prop where
  redacted_eq : s.redacted = t.redacted
  grown : ∃ later, s.organizations = old ++ later ∧ t.organizations = old' ++ later

namespace Store

variable {old old' : List Organization} {s t s' t' : Store}

theorem SameButKeys.start (same : s.redacted = t.redacted) :
    SameButKeys s.organizations t.organizations s t :=
  ⟨same, [], by rw [List.append_nil], by rw [List.append_nil]⟩

theorem SameButKeys.next (same : SameButKeys old old' s t) (redacted_eq : s'.redacted = t'.redacted)
    {later : List Organization} (grown : s'.organizations = s.organizations ++ later)
    (grown' : t'.organizations = t.organizations ++ later) : SameButKeys old old' s' t' := by
  obtain ⟨_, earlier, s_eq, t_eq⟩ := same
  refine ⟨redacted_eq, earlier ++ later, ?_, ?_⟩
  · rw [grown, s_eq, List.append_assoc]
  · rw [grown', t_eq, List.append_assoc]

end Store

/-- Enrollments that are equal without keys show the same id, owner, status and data. -/
theorem Enrollment.shown_of_redacted {a b : Enrollment} (same : a.redacted = b.redacted) :
    a.id = b.id ∧ a.organization.id = b.organization.id ∧ a.status = b.status ∧
      a.deviceData = b.deviceData := by
  have id := congrArg Enrollment.id same
  have owner := congrArg (fun e => e.organization.id) same
  have status := congrArg Enrollment.status same
  have deviceData := congrArg Enrollment.deviceData same
  exact ⟨id, owner, status, deviceData⟩

namespace StoreCall

variable {α β γ δ : Type} {view : α → γ} {view' : β → δ} {call call' : StoreCall α}

/-- On stores that differ at most in keys the two calls are answered alike, as far as the view
shows, and the stores still differ at most in keys afterwards. -/
def Blind (view : α → γ) (call call' : StoreCall α) : Prop :=
  ∀ (old old' : List Organization) (s t : Store), Store.SameButKeys old old' s t →
    (call.runOn s).1.map view = (call'.runOn t).1.map view ∧
      Store.SameButKeys old old' (call.runOn s).2 (call'.runOn t).2

theorem Blind.pure {a b : α} (same : view a = view b) :
    Blind view (Pure.pure a) (Pure.pure b) :=
  fun _ _ _ _ stores => ⟨congrArg Except.ok same, stores⟩

theorem Blind.throw (e : IdentityError) :
    Blind view (MonadExcept.throw e) (MonadExcept.throw e) :=
  fun _ _ _ _ stores => ⟨rfl, stores⟩

theorem Blind.ofExcept (outcome : Except IdentityError α) :
    Blind view (StoreCall.ofExcept outcome) (StoreCall.ofExcept outcome) :=
  fun _ _ _ _ stores => ⟨rfl, stores⟩

/-- What is read is the same up to keys if the read commutes with blanking them out. -/
theorem Blind.read {answer : Store → Except IdentityError α} {blank : α → α}
    (blind : ∀ s, answer s.redacted = (answer s).map blank) :
    Blind blank (StoreCall.read answer) (StoreCall.read answer) := by
  intro old old' s t stores
  refine ⟨?_, stores⟩
  calc (answer s).map blank = answer s.redacted := (blind s).symm
    _ = answer t.redacted := by rw [stores.redacted_eq]
    _ = (answer t).map blank := blind t

/-- A write is blind if it commutes with blanking out keys and adds organizations that do not depend
on the store. -/
theorem Blind.write {answer : Store → Except IdentityError (α × Store)} {blank : α → α}
    (blind : ∀ s, Store.blurred blank (answer s.redacted) = Store.blurred blank (answer s))
    (later : List Organization)
    (grown : ∀ s a s', answer s = .ok (a, s') → s'.organizations = s.organizations ++ later) :
    Blind blank (StoreCall.write answer) (StoreCall.write answer) := by
  intro old old' s t stores
  have same : Store.blurred blank (answer s) = Store.blurred blank (answer t) := by
    rw [← blind s, ← blind t, stores.redacted_eq]
  rcases map_eq_map_cases same with ⟨e, failed, failed'⟩ | ⟨⟨a, s'⟩, ⟨b, t'⟩, made, made', eq⟩
  · rw [runOn_write_of_error failed, runOn_write_of_error failed']
    exact ⟨rfl, stores⟩
  · rw [runOn_write_eq_ok_iff.2 made, runOn_write_eq_ok_iff.2 made']
    obtain ⟨answers, redacted_eq⟩ := Prod.mk.inj eq
    exact ⟨congrArg Except.ok answers,
      stores.next redacted_eq (grown _ _ _ made) (grown _ _ _ made')⟩

theorem Blind.bind (first : Blind view call call') {f f' : α → StoreCall β}
    (rest : ∀ a b, view a = view b → Blind view' (f a) (f' b)) :
    Blind view' (call >>= f) (call' >>= f') := by
  intro old old' s t stores
  obtain ⟨answers, next⟩ := first _ _ _ _ stores
  rcases run : call.runOn s with ⟨x, s'⟩
  rcases run' : call'.runOn t with ⟨y, t'⟩
  rw [run, run'] at answers next
  rcases map_eq_map_cases answers with ⟨e, rfl, rfl⟩ | ⟨a, b, rfl, rfl, same⟩
  · rw [runOn_bind_of_error run, runOn_bind_of_error run']
    exact ⟨rfl, next⟩
  · rw [runOn_bind_of_ok run, runOn_bind_of_ok run']
    exact rest a b same _ _ _ _ next

/-- After an answer without keys both calls go on from the same answer. -/
theorem Blind.bind_same (first : Blind (fun a : α => a) call call') {f : α → StoreCall β}
    (rest : ∀ a, Blind view' (f a) (f a)) : Blind view' (call >>= f) (call' >>= f) :=
  first.bind fun a b same => by
    obtain rfl : a = b := same
    exact rest a

end StoreCall

namespace IdentityService

open StoreCall

theorem blind_organizationList :
    Blind (List.map Organization.redacted) organizationList organizationList :=
  .read Store.listOrganizations_redacted

theorem blind_deviceList (organizationId : String) :
    Blind (List.map Enrollment.redacted) (deviceList organizationId) (deviceList organizationId) :=
  .read fun s => s.listDevices_redacted organizationId

theorem blind_getDeviceById (deviceId : String) :
    Blind Enrollment.redacted (StoreCall.read fun store => store.getDeviceById deviceId)
      (StoreCall.read fun store => store.getDeviceById deviceId) :=
  .read fun s => s.getDeviceById_redacted deviceId

theorem blind_deviceGet (organizationId deviceId : String) :
    Blind Enrollment.redacted (deviceGet organizationId deviceId)
      (deviceGet organizationId deviceId) := by
  refine (blind_getDeviceById deviceId).bind fun a b same => ?_
  obtain ⟨_, owner, _, _⟩ := Enrollment.shown_of_redacted same
  rw [owner]
  by_cases foreign : b.organization.id ≠ organizationId
  · rw [if_pos foreign, if_pos foreign]
    exact (Blind.throw _ : Blind (fun _ => ()) _ _).bind fun _ _ _ => .pure same
  · rw [if_neg foreign, if_neg foreign]
    exact .pure same

theorem blind_updateDeviceData (id deviceData : String) :
    Blind (fun a => a) (StoreCall.write fun store => store.updateDeviceData id deviceData)
      (StoreCall.write fun store => store.updateDeviceData id deviceData) := by
  refine .write (fun s => s.updateDeviceData_redacted id deviceData) [] fun s _ s' made => ?_
  obtain ⟨_, _, _, becomes⟩ := Store.updateDeviceData_ok made
  rw [becomes.organizations_eq, List.append_nil]

theorem blind_updateDeviceStatus (id : String) (update : StatusUpdate) :
    Blind (fun a => a) (StoreCall.write fun store => store.updateDeviceStatus id update)
      (StoreCall.write fun store => store.updateDeviceStatus id update) := by
  refine .write (fun s => s.updateDeviceStatus_redacted id update) [] fun s _ s' made => ?_
  obtain ⟨_, _, _, _, becomes⟩ := Store.updateDeviceStatus_ok made
  rw [becomes.organizations_eq, List.append_nil]

theorem blind_writeData {a b : Enrollment} (same : a.redacted = b.redacted)
    (deviceData : Option String) :
    Blind (fun a => a) (writeData a deviceData) (writeData b deviceData) := by
  obtain ⟨id, _, _, data_eq⟩ := Enrollment.shown_of_redacted same
  cases deviceData with
  | none => exact .pure data_eq
  | some data =>
    simp only [writeData, id, data_eq]
    by_cases known : data = b.deviceData
    · rw [if_pos known]
      exact .pure rfl
    · rw [if_neg known]
      exact (blind_updateDeviceData b.id data).bind_same fun _ => .pure rfl

theorem blind_updateStatus (deviceId : String) (target : Status) (deviceData : Option String) :
    Blind (fun a => a) (updateStatus deviceId target deviceData)
      (updateStatus deviceId target deviceData) := by
  rw [updateStatus]
  by_cases enrolled : target = .enrolled
  · rw [if_pos enrolled]
    exact fun _ _ _ _ stores => ⟨rfl, stores⟩
  rw [if_neg enrolled]
  refine (blind_getDeviceById deviceId).bind fun a b same => ?_
  obtain ⟨_, _, status_eq, _⟩ := Enrollment.shown_of_redacted same
  refine (blind_writeData same deviceData).bind fun data _ data_eq => ?_
  subst data_eq
  have plan_eq : a.planUpdate target data = b.planUpdate target data := by
    rw [Enrollment.planUpdate, Enrollment.planUpdate, status_eq]
  rw [plan_eq, status_eq]
  refine .bind_same (.ofExcept _) fun plan => ?_
  cases plan with
  | none => exact .pure rfl
  | some update => exact (blind_updateDeviceStatus deviceId update).bind_same fun _ => .pure rfl

theorem blind_deviceUpdate (organizationId deviceId : String) (target : Status)
    (deviceData : Option String) :
    Blind (fun a => a) (deviceUpdate organizationId deviceId target deviceData)
      (deviceUpdate organizationId deviceId target deviceData) := by
  rw [deviceUpdate]
  by_cases enrolled : target ≠ .enrolled
  · rw [if_pos enrolled]
    exact (blind_deviceGet organizationId deviceId).bind fun _ _ _ =>
      blind_updateStatus deviceId target deviceData
  · rw [if_neg enrolled]
    exact blind_updateStatus deviceId target deviceData

theorem blind_enrollee (request : EnrollmentRequest) :
    Blind Enrollment.redacted (enrollee request) (enrollee request) := by
  intro old old' s t stores
  have same : (s.getDevice request.brand request.model request.serialNumber).map
      Enrollment.redacted =
        (t.getDevice request.brand request.model request.serialNumber).map Enrollment.redacted := by
    rw [← s.getDevice_redacted, ← t.getDevice_redacted, stores.redacted_eq]
  rw [runOn, runOn, enrollee, enrollee]
  rcases map_eq_map_cases same with ⟨e, missing, missing'⟩ | ⟨a, b, found, found', eq⟩
  · rw [missing, missing']
    cases e <;> exact ⟨rfl, stores⟩
  · rw [found, found']
    exact ⟨congrArg Except.ok eq, stores⟩

theorem blind_enrollDevice (first second : Assertion) :
    Blind Enrollment.redacted (enrollDevice first second) (enrollDevice first second) := by
  refine .bind_same (.ofExcept _) fun request => ?_
  refine (blind_enrollee request).bind fun a b same => ?_
  obtain ⟨_, _, status, _⟩ := Enrollment.shown_of_redacted same
  have write : Blind Enrollment.redacted (StoreCall.write fun store => store.enrollDevice request)
      (StoreCall.write fun store => store.enrollDevice request) := by
    refine .write (fun s => s.enrollDevice_redacted request) [] fun s _ s' made => ?_
    obtain ⟨_, _, _, _, _, _, _, _, becomes⟩ := Store.enrollDevice_ok made
    rw [becomes.organizations_eq, List.append_nil]
  rw [status]
  by_cases waiting : b.status ≠ .waiting
  · rw [if_pos waiting]
    exact .bind_same (.throw _) fun _ => write
  · rw [if_neg waiting]
    exact write

theorem blind_requireNewName (name : String) :
    Blind (fun a => a) (requireNewName name) (requireNewName name) := by
  intro old old' s t stores
  have same : (s.getOrganizationByName name).map Organization.redacted =
      (t.getOrganizationByName name).map Organization.redacted := by
    rw [← s.getOrganizationByName_redacted, ← t.getOrganizationByName_redacted, stores.redacted_eq]
  rw [runOn, runOn, requireNewName, requireNewName]
  rcases map_eq_map_cases same with ⟨e, missing, missing'⟩ | ⟨a, b, found, found', _⟩
  · rw [missing, missing']
    cases e <;> exact ⟨rfl, stores⟩
  · rw [found, found']
    exact ⟨rfl, stores⟩

theorem blind_registerOrganization (service : IdentityService) (fresh : Fresh)
    (request : OrganizationRequest) :
    Blind (fun a => a) (service.registerOrganization fresh request)
      (service.registerOrganization fresh request) := by
  refine .bind_same (.ofExcept _) fun _ => ?_
  refine (blind_requireNewName request.name).bind_same fun _ => ?_
  refine .bind_same (.ofExcept _) fun issued => ?_
  refine .write (fun s => s.createOrganization_redacted fresh.id _)
    [⟨fresh.id, request.name, request.country, issued.privateKeyPem, issued.certificatePem⟩]
    fun s _ s' made => ?_
  obtain ⟨_, _, _, becomes⟩ := Store.createOrganization_ok made
  exact becomes.organizations_eq

end IdentityService

end FleetIdentity
