import FleetIdentity.Proofs.Service.EnrollmentPair
import FleetIdentity.Proofs.Service.StoreCalls
import FleetIdentity.Proofs.Store.Reads
import FleetIdentity.Service.Enrollment
import FleetIdentity.Service.Registration
import FleetIdentity.Service.StatusChange

/-!
# What the service calls do to the store

A registration or an enrollment that succeeds is one write of the store, and one that fails changes
nothing. A change of status makes up to two writes; on a sound store the second cannot fail after
the first, so that it too changes the one row completely or nothing at all.
-/

namespace FleetIdentity.IdentityService

open StoreCall

variable {s s' : Store} {service : IdentityService} {fresh : Fresh}

/-! ### Registration and enrollment -/

theorem reading_requireNewName (name : String) : Reading (requireNewName name) := by
  intro s
  rw [runOn, requireNewName]
  split <;> rfl

theorem reading_requireNewDevice (brand model serialNumber : String) :
    Reading (requireNewDevice brand model serialNumber) := by
  intro s
  rw [runOn, requireNewDevice]
  split <;> rfl

theorem reading_enrollee (request : EnrollmentRequest) : Reading (enrollee request) := by
  intro s
  rw [runOn, enrollee]
  split <;> rfl

theorem reading_deviceGet (organizationId deviceId : String) :
    Reading (deviceGet organizationId deviceId) := by
  refine (reading_read _).bind fun e => ?_
  dsimp only
  split
  · exact reading_throw _
  · exact reading_pure _

theorem registerOrganization_ok {request : OrganizationRequest} {answer : String}
    (h : (service.registerOrganization fresh request).runOn s = (.ok answer, s')) :
    ∃ new : NewOrganization, new.name = request.name ∧ new.country = request.country ∧
      s.createOrganization fresh.id new = .ok (answer, s') := by
  obtain ⟨_, _, named, h⟩ := runOn_bind_eq_ok_iff.1 h
  cases (reading_ofExcept _).eq named
  obtain ⟨_, _, new_name, h⟩ := runOn_bind_eq_ok_iff.1 h
  cases (reading_requireNewName _).eq new_name
  obtain ⟨issued, _, issue, h⟩ := runOn_bind_eq_ok_iff.1 h
  cases (reading_ofExcept _).eq issue
  exact ⟨_, rfl, rfl, runOn_write_eq_ok_iff.1 h⟩

theorem atomic_registerOrganization (request : OrganizationRequest) :
    Atomic (service.registerOrganization fresh request) := by
  refine (reading_ofExcept _).bind_atomic fun _ => ?_
  refine (reading_requireNewName _).bind_atomic fun _ => ?_
  refine (reading_ofExcept _).bind_atomic fun issued => ?_
  exact atomic_write _

theorem registerDevice_ok {request : DeviceRequest} {answer : String}
    (h : (service.registerDevice fresh request).runOn s = (.ok answer, s')) :
    ∃ new : NewDevice, new.brand = request.brand ∧ new.model = request.model ∧
      new.serialNumber = request.serialNumber ∧
      s.createDevice fresh.id new = .ok (answer, s') := by
  obtain ⟨_, _, checked, h⟩ := runOn_bind_eq_ok_iff.1 h
  cases (reading_ofExcept _).eq checked
  obtain ⟨organization, _, owner, h⟩ := runOn_bind_eq_ok_iff.1 h
  cases (reading_read _).eq owner
  obtain ⟨_, _, new_device, h⟩ := runOn_bind_eq_ok_iff.1 h
  cases (reading_requireNewDevice _ _ _).eq new_device
  obtain ⟨issued, _, issue, h⟩ := runOn_bind_eq_ok_iff.1 h
  cases (reading_ofExcept _).eq issue
  exact ⟨_, rfl, rfl, rfl, runOn_write_eq_ok_iff.1 h⟩

theorem atomic_registerDevice (request : DeviceRequest) :
    Atomic (service.registerDevice fresh request) := by
  refine (reading_ofExcept _).bind_atomic fun _ => ?_
  refine (reading_read _).bind_atomic fun organization => ?_
  refine (reading_requireNewDevice _ _ _).bind_atomic fun _ => ?_
  refine (reading_ofExcept _).bind_atomic fun issued => ?_
  exact atomic_write _

theorem enrollDevice_ok {first second : Assertion} {e : Enrollment}
    (h : (enrollDevice first second).runOn s = (.ok e, s')) :
    ∃ request, EnrollmentRequest.ofPair first second = .ok request ∧
      s.enrollDevice request = .ok (e, s') := by
  obtain ⟨request, t, asked, rest⟩ := runOn_bind_eq_ok_iff.1 h
  obtain ⟨pair, same⟩ := runOn_ofExcept_eq_ok_iff.1 asked
  subst same
  obtain ⟨current, u, found, last⟩ := runOn_bind_eq_ok_iff.1 rest
  cases (reading_enrollee _).eq found
  split at last
  · cases last
  · exact ⟨request, pair, runOn_write_eq_ok_iff.1 last⟩

theorem atomic_enrollDevice (first second : Assertion) : Atomic (enrollDevice first second) := by
  refine (reading_ofExcept _).bind_atomic fun request => ?_
  refine (reading_enrollee _).bind_atomic fun current => ?_
  split
  · exact (reading_throw _).atomic
  · exact atomic_write _

/-! ### A device through an organization -/

theorem deviceGet_of_owned (h : s.Sound) {r : DeviceRow} (mem : r ∈ s.rows) :
    ∃ e, s.enrollment? r = some e ∧ (deviceGet r.organizationId r.id).runOn s = (.ok e, s) := by
  obtain ⟨e, shown⟩ := h.enrollment? mem
  have found : s.getDeviceById r.id = .ok e :=
    (Store.getDeviceById_eq_ok_iff h).2
      ⟨Store.mem_enrollments.2 ⟨r, mem, shown⟩, (Store.eq_of_enrollment? shown).1⟩
  refine ⟨e, shown, ?_⟩
  rw [deviceGet, runOn_bind_of_ok (runOn_read_eq_ok_iff.2 ⟨found, rfl⟩),
    if_neg (not_not.2 (Store.eq_of_enrollment? shown).2.2.2)]
  rfl

/-- A device that the organization does not have is not found, whether another one has it or not. -/
theorem deviceGet_of_foreign (h : s.Sound) {organizationId deviceId : String}
    (foreign : ∀ r ∈ s.rows, r.id = deviceId → r.organizationId ≠ organizationId) :
    ∃ text, (deviceGet organizationId deviceId).runOn s = (.error (.notFound text), s) := by
  cases found : s.getDeviceById deviceId with
  | error e =>
    have missing : e = .deviceNotFound deviceId :=
      foundOr_eq_error ((Store.getDeviceById_eq h deviceId).symm.trans found)
    exact ⟨_, runOn_bind_of_error (congrArg (·, s) (missing ▸ found))⟩
  | ok e =>
    obtain ⟨r, mem, o, _, status, id_eq, owned, _, rfl⟩ := Store.getDeviceById_ok found
    have other : (r.toEnrollment o status).organization.id ≠ organizationId :=
      fun same => foreign r mem id_eq (owned.symm.trans same)
    refine ⟨s!"device `{deviceId}` not found in organization `{organizationId}`", ?_⟩
    rw [deviceGet, runOn_bind_of_ok (runOn_read_eq_ok_iff.2 ⟨found, rfl⟩), if_pos other]
    rfl

/-! ### Changes of status -/

theorem planUpdate_of_ne (current : Enrollment) {target : Status} (enrolled : target ≠ .enrolled)
    (deviceData : String) :
    current.planUpdate target deviceData = .ok (if current.status = target then none
      else some { expected := current.status, status := target, deviceData }) := by
  rw [Enrollment.planUpdate, Status.planTransition, if_neg enrolled]
  split <;> rfl

theorem writeData_run (h : s.Sound) {r : DeviceRow} (mem : r ∈ s.rows) (current : Enrollment)
    (id_eq : current.id = r.id) (data_eq : current.deviceData = r.deviceData)
    (deviceData : Option String) :
    ∃ t, (writeData current deviceData).runOn s = (.ok (deviceData.getD r.deviceData), t) ∧
      s.Becomes t s.organizations (DeviceRow.replaceIn s.rows
        { r with deviceData := deviceData.getD r.deviceData }) := by
  have unchanged : s.Becomes s s.organizations (DeviceRow.replaceIn s.rows r) := by
    rw [DeviceRow.replaceIn_self h.ids mem]
    exact .refl s
  cases deviceData with
  | none => exact ⟨s, by rw [writeData, runOn_pure, data_eq]; rfl, unchanged⟩
  | some data =>
    rw [writeData, Option.getD_some]
    by_cases same : data = current.deviceData
    · rw [if_pos same]
      obtain rfl : data = r.deviceData := same.trans data_eq
      exact ⟨s, rfl, unchanged⟩
    · rw [if_neg same]
      obtain ⟨t, made, becomes⟩ := Store.updateDeviceData_of_mem h mem data
      refine ⟨t, ?_, becomes⟩
      rw [runOn_bind_of_ok (runOn_write_eq_ok_iff.2 (id_eq ▸ made))]
      rfl

/-- A change of the status of a device in a sound store succeeds, and writes the whole change of its
row and nothing else. -/
theorem updateStatus_of_mem (h : s.Sound) {r : DeviceRow} (mem : r ∈ s.rows) {target : Status}
    (waits : target ≠ .enrolled) (deviceData : Option String) :
    ∃ status s', r.statusCode = Status.code status ∧
      (updateStatus r.id target deviceData).runOn s = (.ok ⟨status, target⟩, s') ∧
      s.Becomes s' s.organizations
        (DeviceRow.replaceIn s.rows (r.administered target deviceData)) := by
  obtain ⟨o, status, found, code⟩ := h.getDeviceById_of_mem mem
  obtain ⟨t, data_run, becomes⟩ := writeData_run h mem (r.toEnrollment o status) rfl rfl deviceData
  have got : (StoreCall.read fun store => store.getDeviceById r.id).runOn s =
      (.ok (r.toEnrollment o status), s) :=
    runOn_read_eq_ok_iff.2 ⟨found, rfl⟩
  -- The data are written before the status is compared.
  by_cases there : status = target
  · have planned : (r.toEnrollment o status).planUpdate target (deviceData.getD r.deviceData) =
        .ok none :=
      (planUpdate_of_ne _ waits _).trans (congrArg Except.ok (if_pos there))
    refine ⟨status, t, code, ?_, ?_⟩
    · rw [updateStatus, if_neg waits, runOn_bind_of_ok got, runOn_bind_of_ok data_run,
        runOn_bind_of_ok (runOn_ofExcept_eq_ok_iff.2 ⟨planned, rfl⟩), ← there]
      rfl
    · rw [DeviceRow.administered, ← there, ← code]
      exact becomes
  · have planned : (r.toEnrollment o status).planUpdate target (deviceData.getD r.deviceData) =
        .ok (some ⟨status, target, deviceData.getD r.deviceData⟩) :=
      (planUpdate_of_ne _ waits _).trans (congrArg Except.ok (if_neg there))
    -- The row with the new data still has its id and its status, so the second write finds it.
    have sound : t.Sound := h.replace mem becomes rfl rfl rfl ⟨status, code⟩
    have written : { r with deviceData := deviceData.getD r.deviceData } ∈ t.rows := by
      rw [becomes.rows_eq]
      exact DeviceRow.mem_replaceIn_self mem rfl
    obtain ⟨s', made, becomes'⟩ := Store.updateDeviceStatus_of_mem sound written
      ⟨status, target, deviceData.getD r.deviceData⟩ code
    refine ⟨status, s', code, ?_, ?_⟩
    · rw [updateStatus, if_neg waits, runOn_bind_of_ok got, runOn_bind_of_ok data_run,
        runOn_bind_of_ok (runOn_ofExcept_eq_ok_iff.2 ⟨planned, rfl⟩)]
      exact runOn_bind_of_ok (runOn_write_eq_ok_iff.2 made)
    · rw [becomes.organizations_eq, becomes.rows_eq, DeviceRow.replaceIn_replaceIn] at becomes'
      · exact becomes.trans becomes'
      · rfl

/-- A change of status on a sound store fails and changes nothing, or writes the whole change of one
row and nothing else. -/
theorem updateStatus_run (h : s.Sound) (deviceId : String) (target : Status)
    (deviceData : Option String) :
    (∃ e, (updateStatus deviceId target deviceData).runOn s = (.error e, s)) ∨
      ∃ r ∈ s.rows, ∃ status s', r.id = deviceId ∧ target ≠ .enrolled ∧
        r.statusCode = Status.code status ∧
        (updateStatus deviceId target deviceData).runOn s = (.ok ⟨status, target⟩, s') ∧
        s.Becomes s' s.organizations
          (DeviceRow.replaceIn s.rows (r.administered target deviceData)) := by
  by_cases enrolled : target = .enrolled
  · left
    exact ⟨_, by rw [updateStatus, if_pos enrolled]; rfl⟩
  cases found : s.getDeviceById deviceId with
  | error e =>
    left
    refine ⟨e, ?_⟩
    rw [updateStatus, if_neg enrolled]
    exact runOn_bind_of_error (congrArg (·, s) found)
  | ok current =>
    right
    obtain ⟨r, mem, _, _, _, rfl, _⟩ := Store.getDeviceById_ok found
    obtain ⟨status, s', code, run, becomes⟩ := updateStatus_of_mem h mem enrolled deviceData
    exact ⟨r, mem, status, s', rfl, enrolled, code, run, becomes⟩

theorem deviceUpdate_of_owned (h : s.Sound) {r : DeviceRow} (mem : r ∈ s.rows) {target : Status}
    (waits : target ≠ .enrolled) (deviceData : Option String) :
    ∃ status s', r.statusCode = Status.code status ∧
      (deviceUpdate r.organizationId r.id target deviceData).runOn s =
        (.ok ⟨status, target⟩, s') ∧
      s.Becomes s' s.organizations
        (DeviceRow.replaceIn s.rows (r.administered target deviceData)) := by
  obtain ⟨e, _, got⟩ := deviceGet_of_owned h mem
  obtain ⟨status, s', code, run, becomes⟩ := updateStatus_of_mem h mem waits deviceData
  refine ⟨status, s', code, ?_, becomes⟩
  rw [deviceUpdate, if_pos waits, runOn_bind_of_ok got]
  exact run

theorem deviceUpdate_of_foreign (h : s.Sound) {organizationId deviceId : String}
    (foreign : ∀ r ∈ s.rows, r.id = deviceId → r.organizationId ≠ organizationId)
    {target : Status} (waits : target ≠ .enrolled) (deviceData : Option String) :
    ∃ text, (deviceUpdate organizationId deviceId target deviceData).runOn s =
      (.error (.notFound text), s) := by
  obtain ⟨text, missing⟩ := deviceGet_of_foreign h foreign
  refine ⟨text, ?_⟩
  rw [deviceUpdate, if_pos waits]
  exact runOn_bind_of_error missing

/-- Nothing is looked up for a status that no update gives. -/
theorem deviceUpdate_enrolled (organizationId deviceId : String) (deviceData : Option String)
    (s : Store) : ∃ text, (deviceUpdate organizationId deviceId .enrolled deviceData).runOn s =
      (.error (.forbiddenTransition text), s) :=
  ⟨_, rfl⟩

theorem deviceUpdate_run (h : s.Sound) (organizationId deviceId : String) (target : Status)
    (deviceData : Option String) :
    (∃ e, (deviceUpdate organizationId deviceId target deviceData).runOn s = (.error e, s)) ∨
      ∃ r ∈ s.rows, ∃ status s', r.id = deviceId ∧ target ≠ .enrolled ∧
        (deviceUpdate organizationId deviceId target deviceData).runOn s =
          (.ok ⟨status, target⟩, s') ∧
        s.Becomes s' s.organizations
          (DeviceRow.replaceIn s.rows (r.administered target deviceData)) := by
  by_cases enrolled : target = .enrolled
  · obtain ⟨_, run⟩ := deviceUpdate_enrolled organizationId deviceId deviceData s
    exact .inl ⟨_, enrolled ▸ run⟩
  by_cases owned : ∃ r ∈ s.rows, r.id = deviceId ∧ r.organizationId = organizationId
  · obtain ⟨r, mem, rfl, rfl⟩ := owned
    obtain ⟨status, s', _, run, becomes⟩ := deviceUpdate_of_owned h mem enrolled deviceData
    exact .inr ⟨r, mem, status, s', rfl, enrolled, run, becomes⟩
  · obtain ⟨_, run⟩ := deviceUpdate_of_foreign h
      (fun r mem id_eq owned_here => owned ⟨r, mem, id_eq, owned_here⟩) enrolled deviceData
    exact .inl ⟨_, run⟩

end FleetIdentity.IdentityService
