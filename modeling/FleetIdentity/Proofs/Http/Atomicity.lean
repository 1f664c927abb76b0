import FleetIdentity.Proofs.Http.EnrollmentTrace
import FleetIdentity.Proofs.Service.EnrolledDevice
import FleetIdentity.Proofs.Store.Steps

/-!
# Failures change nothing

Whatever a request asks for, and whatever the issuer and the directory of an outside authority do,
a response other than 200 means that the store is what it was, and so does a failure of a call of
the service. The service rolls nothing back: a registration or an enrollment writes last, and of the
two writes of a status change the second cannot fail after the first. Below the service the same
holds of the steps of each write in memory.

Requests are taken one at a time.
-/

namespace FleetIdentity

namespace IdentityService

open StoreCall

variable {s : Store}

theorem atomicOn_updateStatus (h : s.Sound) (deviceId : String) (target : Status)
    (deviceData : Option String) : AtomicOn (updateStatus deviceId target deviceData) s := by
  intro e s' failed
  rcases updateStatus_run h deviceId target deviceData with ⟨_, run⟩ | ⟨_, _, _, _, _, _, _, run, _⟩
  · exact (congrArg Prod.snd (run.symm.trans failed)).symm
  · cases run.symm.trans failed

theorem atomicOn_deviceUpdate (h : s.Sound) (organizationId deviceId : String) (target : Status)
    (deviceData : Option String) :
    AtomicOn (deviceUpdate organizationId deviceId target deviceData) s := by
  intro e s' failed
  rcases deviceUpdate_run h organizationId deviceId target deviceData with
    ⟨_, run⟩ | ⟨_, _, _, _, _, _, run, _⟩
  · exact (congrArg Prod.snd (run.symm.trans failed)).symm
  · cases run.symm.trans failed

end IdentityService

namespace Server

open StoreCall IdentityService

/-- A request that is not answered 200 and a service call that fails leave a reachable store as it
is, and the steps of a failing call leave the tables in memory as they are. -/
theorem failure_changes_nothing {s : Store} {t : MemoryTables} (reached : s.Reachable)
    (attained : t.Attained) :
    (∀ (server : Server) (fresh : Fresh) (r : HttpRequest) (response : HttpResponse) (s' : Store),
      (server.answer fresh r).run s = (response, s') → response.status ≠ 200 → s' = s) ∧
    (∀ (service : IdentityService) (fresh : Fresh) (request : OrganizationRequest),
      AtomicOn (service.registerOrganization fresh request) s) ∧
    (∀ (service : IdentityService) (fresh : Fresh) (request : DeviceRequest),
      AtomicOn (service.registerDevice fresh request) s) ∧
    (∀ first second : Assertion, AtomicOn (IdentityService.enrollDevice first second) s) ∧
    (∀ (deviceId : String) (target : Status) (deviceData : Option String),
      AtomicOn (updateStatus deviceId target deviceData) s) ∧
    (∀ (organizationId deviceId : String) (target : Status) (deviceData : Option String),
      AtomicOn (deviceUpdate organizationId deviceId target deviceData) s) ∧
    ∀ (call : Call) (e : IdentityError) (t' : MemoryTables),
      TableSteps.perform call t = (.error e, t') → t' = t := by
  have sound := reached.sound
  refine ⟨?request, ?organization, ?device, ?enrollment, ?status, ?update, ?steps⟩
  case request =>
    intro server fresh r response s' answered failed
    exact (effect_of_answer sound answered).unchanged failed
  case organization => exact fun _ _ request => atomic_registerOrganization request s
  case device => exact fun _ _ request => atomic_registerDevice request s
  case enrollment => exact fun first second => atomic_enrollDevice first second s
  case status => exact fun id target data => atomicOn_updateStatus sound id target data
  case update => exact fun owner id target data => atomicOn_deviceUpdate sound owner id target data
  case steps => exact fun _ _ _ failed => TableSteps.perform_failed attained failed

/-- The registration of the device of brand `a/b` once more. -/
def slashPost : HttpRequest :=
  jsonPost "/v1/device"
    "\x7b\"orgid\":\"o\",\"brand\":\"a/b\",\"model\":\"c\",\"serial\":\"s\"\x7d"

theorem failure_changes_nothing_duplicate :
    ((acmeServer.answer (freshId "e") slashPost).run
        (.withDevice slashDevice .waiting)).1.status = 409 ∧
      ((acmeServer.answer (freshId "e") slashPost).run
        (.withDevice slashDevice .waiting)).2 = .withDevice slashDevice .waiting ∧
      ∃ t : MemoryTables, t.organizations.values.length = 1 ∧
        (TableSteps.perform (.enrollDevice ⟨"a", "b", "c", "", "k"⟩) t).2 = t := by
  have refused : ((acmeServer.answer (freshId "e") slashPost).run
      (.withDevice slashDevice .waiting)).1.status = 409 := by
    decide +kernel
  let t := (MemoryTables.empty.perform (.createOrganization "o" ⟨"acme", "", "", ""⟩)).2
  have attained : t.Attained := MemoryTables.Attained.empty.perform _ nofun
  obtain ⟨request, _, _, _, _, _, steps⟩ := failure_changes_nothing reachable_slash attained
  have failed : (TableSteps.perform (.enrollDevice ⟨"a", "b", "c", "", "k"⟩) t).1 =
      .error (.deviceNotFound "a/b/c") := rfl
  refine ⟨refused, ?_, t, by decide +kernel, steps _ _ _ (Prod.ext failed rfl)⟩
  exact request acmeServer (freshId "e") slashPost _ _ rfl fun answered =>
    absurd (refused.symm.trans answered) (by decide)

end Server

end FleetIdentity
