import FleetIdentity.Proofs.Service.EnrolledDevice
import FleetIdentity.Proofs.Store.Writes

/-!
# When a registration is a duplicate

A registration of a device that is complete, has an owner and gets its certificate can fail in one
way only: the device is registered already. The store is asked twice for that, once before the
certificate is issued and once when the device is stored, and both times by the key that it looks
devices up by. In a database that is the triple of brand, model and serial number. In memory it is
the joined text, and there a slash makes a duplicate of a device with another triple.
-/

namespace FleetIdentity.IdentityService

open StoreCall

variable {s s' : Store} {service : IdentityService} {fresh : Fresh} {request : DeviceRequest}
  {organization : Organization} {issued : IssuedCredential}

/-- A device of the store has the look-up key that the request asks for. -/
def KeyTaken (s : Store) (request : DeviceRequest) : Prop :=
  ∃ r ∈ s.rows,
    s.kind.keyOf r = s.kind.lookupKey request.brand request.model request.serialNumber

/-- A device of the store has the brand, model and serial number that the request asks for. -/
def TripleTaken (s : Store) (request : DeviceRequest) : Prop :=
  ∃ r ∈ s.rows, r.device.brand = request.brand ∧ r.device.model = request.model ∧
    r.device.serialNumber = request.serialNumber

/-- None of the texts of the request is blank. -/
structure Complete (request : DeviceRequest) : Prop where
  organizationId : isBlank request.organizationId = false
  brand : isBlank request.brand = false
  model : isBlank request.model = false
  serialNumber : isBlank request.serialNumber = false

/-- What is stored for a request. -/
def newDevice (service : IdentityService) (request : DeviceRequest) (issued : IssuedCredential) :
    NewDevice where
  organizationId := request.organizationId
  brand := request.brand
  model := request.model
  serialNumber := request.serialNumber
  credentials := ⟨issued.privateKeyPem, issued.certificatePem, service.mqttUrl, service.mqttPort⟩

/-- The enrollment of a device that was just registered. -/
def newEnrollment (service : IdentityService) (id : String) (request : DeviceRequest)
    (organization : Organization) (issued : IssuedCredential) : Enrollment where
  id := id
  device := ⟨request.brand, request.model, request.serialNumber, "", ""⟩
  credentials := ⟨issued.privateKeyPem, issued.certificatePem, service.mqttUrl, service.mqttPort⟩
  organization := organization
  status := .waiting
  deviceData := ""

/-- The registration fails as a duplicate exactly in one case, and then changes nothing; in every
other it answers with the new id, and one waiting device more is all that changes. -/
structure RegistersUnless (taken : Prop) (service : IdentityService) (fresh : Fresh)
    (request : DeviceRequest) (organization : Organization) (issued : IssuedCredential)
    (s : Store) : Prop where
  duplicate : (∃ text s', (service.registerDevice fresh request).runOn s =
    (.error (.duplicate text), s')) ↔ taken
  unchanged : taken → ((service.registerDevice fresh request).runOn s).2 = s
  registered : ¬ taken → ∃ s', (service.registerDevice fresh request).runOn s =
      (.ok fresh.id, s') ∧ s'.kind = s.kind ∧ s'.organizations = s.organizations ∧
    s'.enrollments = s.enrollments ++ [newEnrollment service fresh.id request organization issued]

theorem checkDeviceRequest_ok (h : Complete request) : checkDeviceRequest request = .ok () := by
  rw [checkDeviceRequest, requireField_eq_ok_iff.2 h.organizationId,
    requireField_eq_ok_iff.2 h.brand, requireField_eq_ok_iff.2 h.model,
    requireField_eq_ok_iff.2 h.serialNumber]
  rfl

theorem requireNewDevice_taken (h : s.Sound) (taken : KeyTaken s request) :
    (requireNewDevice request.brand request.model request.serialNumber).runOn s =
      (.error (.deviceRegistered (naturalKey request.brand request.model request.serialNumber)),
        s) := by
  obtain ⟨r, mem, key⟩ := taken
  obtain ⟨e, shown⟩ := h.enrollment? mem
  have device := (Store.eq_of_enrollment? shown).2.1
  have read : s.getDevice request.brand request.model request.serialNumber = .ok e := by
    refine (Store.getDevice_eq_ok_iff h).2 ⟨Store.mem_enrollments.2 ⟨r, mem, shown⟩, ?_⟩
    rw [device]
    exact key
  rw [runOn, requireNewDevice, read]

theorem requireNewDevice_free (h : s.Sound) (free : ¬ KeyTaken s request) :
    (requireNewDevice request.brand request.model request.serialNumber).runOn s = (.ok (), s) := by
  have none_hit : s.rows.find? (fun r => s.kind.keyOf r ==
      s.kind.lookupKey request.brand request.model request.serialNumber) = none := by
    refine List.find?_eq_none.2 fun r mem hit => ?_
    exact free ⟨r, mem, beq_iff_eq.1 hit⟩
  have read := Store.getDevice_eq h request.brand request.model request.serialNumber
  rw [Store.readRow, none_hit] at read
  rw [runOn, requireNewDevice, read]
  rfl

theorem registerDevice_run (service : IdentityService) (fresh : Fresh) (h : s.Sound)
    (complete : Complete request)
    (owner : s.getOrganization request.organizationId = .ok organization) :
    (service.registerDevice fresh request).runOn s =
      (requireNewDevice request.brand request.model request.serialNumber >>= fun _ => do
        let issued ← .ofExcept (liftPki
          (service.issuer.issueDevice fresh.draw organization fresh.id))
        .write fun store => store.createDevice fresh.id
          (service.newDevice request issued)).runOn s := by
  have owner_id : organization.id = request.organizationId := by
    rw [Store.getOrganization_eq h.hasTables, foundOr_eq_ok_iff] at owner
    exact (mem_of_find?_beq owner).2
  rw [registerDevice, runOn_bind_of_ok (runOn_ofExcept_eq_ok_iff.2
    ⟨checkDeviceRequest_ok complete, rfl⟩), runOn_bind_of_ok (runOn_read_eq_ok_iff.2 ⟨owner, rfl⟩),
    owner_id]
  rfl

theorem createDevice_free (service : IdentityService) (issued : IssuedCredential) (h : s.Sound)
    (complete : Complete request)
    (owner : s.getOrganization request.organizationId = .ok organization)
    (free : ¬ KeyTaken s request) {id : String} (unused : ∀ r ∈ s.rows, r.id ≠ id) :
    ∃ s', s.createDevice id (service.newDevice request issued) = .ok (id, s') := by
  rw [Store.getOrganization_eq h.hasTables, foundOr_eq_ok_iff] at owner
  refine Store.createDevice_of_free h.hasTables (checkDeviceRequest_ok complete)
    ⟨organization, mem_of_find?_beq owner⟩ fun r mem => ⟨unused r mem, fun key => ?_⟩
  exact free ⟨r, mem, key⟩

theorem enrollments_newDevice
    (owner : s.organizations.find? (·.id == request.organizationId) = some organization)
    {id : String} (becomes : s.Becomes s' s.organizations
      (s.rows ++ [(service.newDevice request issued).row id])) :
    s'.enrollments = s.enrollments ++ [service.newEnrollment id request organization issued] := by
  have reads : s'.enrollment? = s.enrollment? := by
    funext r
    rw [Store.enrollment?, Store.enrollment?, becomes.organizations_eq]
  have shown : s.enrollment? ((service.newDevice request issued).row id) =
      some (service.newEnrollment id request organization issued) :=
    Store.enrollment?_eq_some_iff.2 ⟨organization, .waiting, owner, rfl, rfl⟩
  rw [Store.enrollments, Store.enrollments, becomes.rows_eq, reads, List.filterMap_append,
    List.filterMap_cons_some shown, List.filterMap_nil]

theorem registersUnless_keyTaken (h : s.Sound) (complete : Complete request)
    (owner : s.getOrganization request.organizationId = .ok organization)
    (issues : service.issuer.issueDevice fresh.draw organization fresh.id = .ok issued)
    (unused : ∀ r ∈ s.rows, r.id ≠ fresh.id) :
    RegistersUnless (KeyTaken s request) service fresh request organization issued s := by
  have run := registerDevice_run service fresh h complete owner
  have refused (taken : KeyTaken s request) : (service.registerDevice fresh request).runOn s =
      (.error (.deviceRegistered
        (naturalKey request.brand request.model request.serialNumber)), s) := by
    rw [run]
    exact runOn_bind_of_error (requireNewDevice_taken h taken)
  have registered (free : ¬ KeyTaken s request) :
      ∃ s', (service.registerDevice fresh request).runOn s = (.ok fresh.id, s') ∧
        s.Becomes s' s.organizations
          (s.rows ++ [(service.newDevice request issued).row fresh.id]) := by
    obtain ⟨s', made⟩ := createDevice_free service issued h complete owner free unused
    obtain ⟨_, _, _, _, becomes⟩ := Store.createDevice_ok made
    refine ⟨s', ?_, becomes⟩
    rw [run, runOn_bind_of_ok (requireNewDevice_free h free), issues]
    exact (runOn_bind_of_ok rfl).trans (runOn_write_eq_ok_iff.2 made)
  refine ⟨⟨?_, ?_⟩, ?_, ?_⟩
  · rintro ⟨text, s', failed⟩
    by_contra free
    obtain ⟨t, made, _⟩ := registered free
    rw [made] at failed
    cases failed
  · intro taken
    exact ⟨_, s, refused taken⟩
  · intro taken
    rw [refused taken]
  · intro free
    obtain ⟨s', made, becomes⟩ := registered free
    rw [Store.getOrganization_eq h.hasTables, foundOr_eq_ok_iff] at owner
    exact ⟨s', made, becomes.kind_eq, becomes.organizations_eq, enrollments_newDevice owner becomes⟩

theorem keyTaken_iff_of_database (database : s.kind = .database) :
    KeyTaken s request ↔ TripleTaken s request := by
  unfold KeyTaken TripleTaken
  rw [database]
  simp [StoreKind.keyOf, StoreKind.lookupKey]

/-- A complete registration with an owner and a certificate is a duplicate exactly if its look-up
key is taken; in a database, exactly if its brand, model and serial number are. -/
theorem registerDevice_duplicate_iff (reached : s.Reachable) (complete : Complete request)
    (owner : s.getOrganization request.organizationId = .ok organization)
    (issues : service.issuer.issueDevice fresh.draw organization fresh.id = .ok issued)
    (unused : ∀ r ∈ s.rows, r.id ≠ fresh.id) :
    RegistersUnless (KeyTaken s request) service fresh request organization issued s ∧
      (s.kind = .database →
        RegistersUnless (TripleTaken s request) service fresh request organization issued s) := by
  have registers := registersUnless_keyTaken reached.sound complete owner issues unused
  refine ⟨registers, fun database => ?_⟩
  rw [← keyTaken_iff_of_database database]
  exact registers

/-! ### A slash in a brand -/

/-- A service whose issuer gives the same key and certificate to all. -/
def fixedService : IdentityService where
  issuer := ⟨fun _ _ _ => .ok ⟨"key", "certificate"⟩, fun _ _ _ => .ok ⟨"key", "certificate"⟩⟩
  mqttUrl := "localhost"
  mqttPort := "8883"

/-- The id `e`, with nothing drawn. -/
def freshE : Fresh :=
  ⟨"e", ⟨(0, 0), [], 0⟩⟩

theorem unused_slash : ∀ r ∈ (Store.withDevice slashDevice .waiting).rows, r.id ≠ freshE.id := by
  intro r mem
  obtain rfl := List.mem_singleton.1 mem
  decide

theorem registerDevice_duplicate_slash :
    ¬ KeyTaken (Store.withDevice slashDevice .waiting) ⟨"o", "a", "c", "s"⟩ ∧
      RegistersUnless (KeyTaken (Store.withDevice slashDevice .waiting) ⟨"o", "a", "c", "s"⟩)
        fixedService freshE ⟨"o", "a", "c", "s"⟩ ⟨"o", "acme", "", "", ""⟩ ⟨"key", "certificate"⟩
        (Store.withDevice slashDevice .waiting) := by
  have complete : Complete ⟨"o", "a", "c", "s"⟩ := by
    constructor <;> decide +kernel
  refine ⟨?_, (registerDevice_duplicate_iff reachable_slash complete (by decide +kernel) rfl
    unused_slash).1⟩
  rintro ⟨r, mem, key⟩
  obtain rfl := List.mem_singleton.1 mem
  exact absurd key (by decide +kernel)

/-- Brand `a` and model `b/c` are refused where brand `a/b` and model `c` are registered. -/
theorem registerDevice_slash_refused : ¬ ∀ (s : Store) (service : IdentityService) (fresh : Fresh)
    (request : DeviceRequest) (organization : Organization) (issued : IssuedCredential),
    s.Reachable → Complete request →
      s.getOrganization request.organizationId = .ok organization →
      service.issuer.issueDevice fresh.draw organization fresh.id = .ok issued →
      (∀ r ∈ s.rows, r.id ≠ fresh.id) →
      RegistersUnless (TripleTaken s request) service fresh request organization issued s := by
  intro claim
  have complete : Complete ⟨"o", "a", "b/c", "s"⟩ := by
    constructor <;> decide +kernel
  have registers := claim (Store.withDevice slashDevice .waiting) fixedService freshE
    ⟨"o", "a", "b/c", "s"⟩ ⟨"o", "acme", "", "", ""⟩ ⟨"key", "certificate"⟩ reachable_slash complete
    (by decide +kernel) rfl unused_slash
  have refused : (fixedService.registerDevice freshE ⟨"o", "a", "b/c", "s"⟩).runOn
      (Store.withDevice slashDevice .waiting) =
        (.error (.deviceRegistered "a/b/c/s"), Store.withDevice slashDevice .waiting) := by
    decide +kernel
  obtain ⟨r, mem, brand, _⟩ := registers.duplicate.1 ⟨_, _, refused⟩
  obtain rfl := List.mem_singleton.1 mem
  exact absurd brand (by decide)

end FleetIdentity.IdentityService
