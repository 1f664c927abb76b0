import FleetIdentity.Proofs.Http.EnrollmentTrace
import FleetIdentity.Proofs.Service.WriteInvariants
import FleetIdentity.Proofs.Store.Calls
import FleetIdentity.Proofs.Store.Tenants

/-!
# An organization does not see another

What a request through an organization is answered depends on the organization and its devices and
on nothing else that the store holds, and it changes no device of another organization. Two stores
that agree on the organization are compared: the request is answered alike, and the stores still
agree afterwards. The text of a failure is left out; it tells a device of another organization from
one that is not there. So is the order of a list, in which stores of different kinds may differ.

The ids of devices are those of all organizations together, and an update looks its device up once
more without the organization. It is safe because an id has only one row.
-/

namespace FleetIdentity

/-- Related answers, or failures with the same status and the same code. -/
def Alike {α : Type} (related : α → α → Prop) :
    Except IdentityError α → Except IdentityError α → Prop
  | .ok a, .ok b => related a b
  | .error e, .error f => e.httpStatus = f.httpStatus ∧ e.code = f.code
  | _, _ => False

namespace HttpResponse

/-- The code in the body of a response. -/
def code? (response : HttpResponse) : Option String :=
  match response.body with
  | some (.object (("code", .text code) :: _)) => some code
  | _ => none

/-- The response that lists devices. -/
def devices (listed : List Enrollment) : HttpResponse :=
  .success [("devices", .list (listed.map Enrollment.toJson))]

/-- The same body, or lists of the same devices in different orders. -/
def SameButOrder (x y : Option Json) : Prop :=
  x = y ∨ ∃ listed listed', listed.Perm listed' ∧
    x = (devices listed).body ∧ y = (devices listed').body

/-- Responses with the same status and the same code, and with related bodies if they report a
success. -/
structure Alike (related : Option Json → Option Json → Prop) (a b : HttpResponse) : Prop where
  status_eq : a.status = b.status
  code_eq : a.code? = b.code?
  body : a.status = 200 → related a.body b.body

end HttpResponse

namespace StoreCall

variable {α β : Type} {organizationId : String} {related : α → α → Prop} {s t : Store}

/-- On two stores that agree on an organization the call is answered alike, leaves the devices of
others alone, and leaves the two in agreement. -/
structure Isolated (organizationId : String) (related : α → α → Prop) (call : StoreCall α)
    (s t : Store) : Prop where
  alike : Alike related (call.runOn s).1 (call.runOn t).1
  others : s.SameOthers organizationId (call.runOn s).2
  tenant : (call.runOn s).2.SameTenant organizationId (call.runOn t).2

theorem Isolated.of_same {call : StoreCall α} {x y : Except IdentityError α}
    (same : s.SameTenant organizationId t) (run : call.runOn s = (x, s))
    (run' : call.runOn t = (y, t)) (alike : Alike related x y) :
    call.Isolated organizationId related s t := by
  refine ⟨?_, ?_, ?_⟩
  · rw [run, run']
    exact alike
  · rw [run]
    exact .refl organizationId s
  · rw [run, run']
    exact same

/-- What is read from elsewhere first makes no difference. -/
theorem Isolated.ofExcept_bind {outcome : Except IdentityError β} {call : β → StoreCall α}
    (same : s.SameTenant organizationId t)
    (isolated : ∀ b, outcome = .ok b → (call b).Isolated organizationId related s t) :
    (ofExcept outcome >>= call).Isolated organizationId related s t := by
  cases outcome with
  | error e => exact .of_same same rfl rfl ⟨rfl, rfl⟩
  | ok b => exact isolated b rfl

end StoreCall

namespace IdentityService

open StoreCall

variable {organizationId : String} {s t : Store}

theorem isolated_deviceList (same : s.SameTenant organizationId t) (hs : s.Sound) (ht : t.Sound)
    {related : List Enrollment → List Enrollment → Prop}
    (lists : ∀ listed listed', listed.Perm listed' →
      s.listDevices organizationId = .ok listed → t.listDevices organizationId = .ok listed' →
        related listed listed') :
    (deviceList organizationId).Isolated organizationId related s t := by
  obtain ⟨listed, read, perm, _⟩ := Store.listDevices_sorted hs organizationId
  obtain ⟨listed', read', perm', _⟩ := Store.listDevices_sorted ht organizationId
  refine .of_same same (congrArg (·, s) read) (congrArg (·, t) read') ?_
  have perm_listed := perm.trans ((same.enrollments_perm hs ht).trans perm'.symm)
  exact lists listed listed' perm_listed read read'

theorem isolated_deviceGet (same : s.SameTenant organizationId t) (hs : s.Sound) (ht : t.Sound)
    (deviceId : String) :
    (deviceGet organizationId deviceId).Isolated organizationId (· = ·) s t := by
  rcases same.device_cases deviceId with ⟨r, mem, mem', rfl, rfl⟩ | ⟨foreign, foreign'⟩
  · obtain ⟨e, shown, run⟩ := deviceGet_of_owned hs mem
    obtain ⟨e', shown', run'⟩ := deviceGet_of_owned ht mem'
    rw [← same.enrollment?_eq hs ht rfl] at shown'
    exact .of_same same run run' (Option.some.inj (shown.symm.trans shown'))
  · obtain ⟨_, run⟩ := deviceGet_of_foreign hs foreign
    obtain ⟨_, run'⟩ := deviceGet_of_foreign ht foreign'
    exact .of_same same run run' ⟨rfl, rfl⟩

/-- An update writes to its own device only. -/
theorem keepsOthers_invariant (s : Store) (deviceId : String) :
    Store.DeviceInvariant (fun t => s.KeepsOthers t deviceId) deviceId where
  updateDeviceStatus keeps made := keeps.trans (Store.keepsOthers_updateDeviceStatus made)
  updateDeviceData _ read keeps made := by
    obtain ⟨r, _, _, _, _, rfl, _, _, rfl⟩ := Store.getDeviceById_ok read
    exact keeps.trans (Store.keepsOthers_updateDeviceData made)

theorem isolated_deviceUpdate (same : s.SameTenant organizationId t) (hs : s.Sound) (ht : t.Sound)
    (deviceId : String) (target : Status) (deviceData : Option String) :
    (deviceUpdate organizationId deviceId target deviceData).Isolated organizationId (· = ·)
      s t := by
  by_cases enrolled : target = .enrolled
  · subst enrolled
    exact .of_same same rfl rfl ⟨rfl, rfl⟩
  rcases same.device_cases deviceId with ⟨r, mem, mem', rfl, rfl⟩ | ⟨foreign, foreign'⟩
  · obtain ⟨status, s', code, run, becomes⟩ := deviceUpdate_of_owned hs mem enrolled deviceData
    obtain ⟨status', t', code', run', becomes'⟩ := deviceUpdate_of_owned ht mem' enrolled deviceData
    obtain rfl : status = status' := Status.code_inj.1 (code.symm.trans code')
    refine ⟨?_, ?_, ?_⟩
    · rw [run, run']
      rfl
    · rw [run]
      have keeps := preserves_deviceUpdate (keepsOthers_invariant s r.id) r.organizationId target
        deviceData s (.refl s r.id)
      rw [run] at keeps
      refine .replace hs mem ?_ ?_ becomes keeps
      · rfl
      · rfl
    · rw [run, run']
      refine same.replace hs ht mem mem' ?_ becomes becomes'
      rfl
  · obtain ⟨_, run⟩ := deviceUpdate_of_foreign hs foreign enrolled deviceData
    obtain ⟨_, run'⟩ := deviceUpdate_of_foreign ht foreign' enrolled deviceData
    exact .of_same same run run' ⟨rfl, rfl⟩

end IdentityService

namespace Server

open StoreCall IdentityService

variable {organizationId : String} {related : Option Json → Option Json → Prop} {s t : Store}
  {r : HttpRequest}

/-- The request is for the devices of an organization, or for one of them. -/
inductive Through (organizationId : String) (r : HttpRequest) : Prop where
  | devices {owner : String} (route : Route.ofTarget? r.target = some (.devices owner))
      (named : HttpPath.decode? owner = some organizationId)
  | deviceOf {owner segment : String}
      (route : Route.ofTarget? r.target = some (.deviceOf owner segment))
      (named : HttpPath.decode? owner = some organizationId)

/-- On two stores that agree on an organization the answer is alike, leaves the devices of others
alone, and leaves the two in agreement. -/
structure Isolated (organizationId : String) (related : Option Json → Option Json → Prop)
    (answer : StateM Store HttpResponse) (s t : Store) : Prop where
  alike : HttpResponse.Alike related (answer.run s).1 (answer.run t).1
  others : s.SameOthers organizationId (answer.run s).2
  tenant : (answer.run s).2.SameTenant organizationId (answer.run t).2

theorem Isolated.bare (same : s.SameTenant organizationId t) (refl : ∀ body, related body body)
    (status : Nat) : Isolated organizationId related (pure (HttpResponse.bare status)) s t :=
  ⟨⟨rfl, rfl, fun _ => refl none⟩, .refl organizationId s, same⟩

theorem alike_respond {α : Type} {relatedAnswers : α → α → Prop} {x y : Except IdentityError α}
    (answer : α → List (String × Json))
    (bodies : ∀ a b, relatedAnswers a b → related (HttpResponse.success (answer a)).body
      (HttpResponse.success (answer b)).body)
    (alike : Alike relatedAnswers x y) :
    HttpResponse.Alike related (respond answer x) (respond answer y) := by
  cases x with
  | error e =>
    cases y with
    | error f => exact ⟨alike.1, congrArg some alike.2, fun ok => absurd ok (httpStatus_ne_ok e)⟩
    | ok b => exact alike.elim
  | ok a =>
    cases y with
    | error f => exact alike.elim
    | ok b => exact ⟨rfl, rfl, fun _ => bodies a b alike⟩

theorem Isolated.reply {α : Type} {call : StoreCall α} {relatedAnswers : α → α → Prop}
    (answer : α → List (String × Json))
    (bodies : ∀ a b, relatedAnswers a b → related (HttpResponse.success (answer a)).body
      (HttpResponse.success (answer b)).body)
    (isolated : call.Isolated organizationId relatedAnswers s t) :
    Isolated organizationId related (Server.reply call answer) s t :=
  ⟨alike_respond answer bodies isolated.alike, isolated.others, isolated.tenant⟩

/-- The answer to HEAD loses its body and keeps the rest. -/
theorem Isolated.head {answer : StateM Store HttpResponse}
    (isolated : Isolated organizationId related answer s t) (refl : ∀ body, related body body)
    (r : HttpRequest) :
    Isolated organizationId related (do
      let response ← answer
      if r.method = .head then return .bare response.status else return response) s t := by
  obtain ⟨alike, others, tenant⟩ := isolated
  by_cases head : r.method = .head
  · simp only [if_pos head]
    exact ⟨⟨alike.status_eq, rfl, fun _ => refl none⟩, others, tenant⟩
  · simp only [if_neg head]
    exact ⟨alike, others, tenant⟩

/-- Bodies are compared by a relation that need only hold of the lists of the two stores. -/
theorem isolated_answer (same : s.SameTenant organizationId t) (hs : s.Sound) (ht : t.Sound)
    (through : Through organizationId r) (refl : ∀ body, related body body)
    (lists : ∀ owner, Route.ofTarget? r.target = some (.devices owner) →
      ∀ listed listed', listed.Perm listed' → s.listDevices organizationId = .ok listed →
        t.listDevices organizationId = .ok listed' →
          related (HttpResponse.devices listed).body (HttpResponse.devices listed').body)
    (server : Server) (fresh : Fresh) :
    Isolated organizationId related (server.answer fresh r) s t := by
  cases through with
  | devices route named =>
    have lists := lists _ route
    rw [answer, route]
    dsimp only
    split
    · exact .bare same refl 405
    · refine .head ?_ refl r
      rw [answerRoute, named]
      have listing : (deviceList organizationId).Isolated organizationId (fun a b =>
          related (HttpResponse.devices a).body (HttpResponse.devices b).body) s t :=
        isolated_deviceList same hs ht lists
      exact .reply _ (fun _ _ bodies => bodies) listing
  | deviceOf route named =>
    have equal {α : Type} (answer : α → List (String × Json)) (a b : α) (eq : a = b) :
        related (HttpResponse.success (answer a)).body (HttpResponse.success (answer b)).body :=
      eq ▸ refl _
    rw [answer, route]
    dsimp only
    split
    · exact .bare same refl 405
    · refine .head ?_ refl r
      rw [answerRoute, named]
      split
      · next organization device owner _ =>
        cases owner
        split
        · exact .reply _ (equal _)
            (.ofExcept_bind same fun _ _ => isolated_deviceUpdate same hs ht _ _ _)
        · exact .reply _ (equal _) (isolated_deviceGet same hs ht _)
      · exact .bare same refl 400

/-! ### Devices of another organization -/

/-- The request is refused with a status and a code, and changes nothing. -/
structure Refused (server : Server) (fresh : Fresh) (r : HttpRequest) (s : Store) (status : Nat)
    (code : String) : Prop where
  status_eq : ((server.answer fresh r).run s).1.status = status
  code_eq : ((server.answer fresh r).run s).1.code? = some code
  unchanged : ((server.answer fresh r).run s).2 = s

theorem Refused.of_run {server : Server} {fresh : Fresh} (e : IdentityError)
    (run : (server.answer fresh r).run s = (.failure e, s)) :
    Refused server fresh r s e.httpStatus e.code := by
  refine ⟨?_, ?_, ?_⟩
  · rw [run]
    rfl
  · rw [run]
    rfl
  · rw [run]

theorem reply_of_error {α : Type} {call : StoreCall α} {answer : α → List (String × Json)}
    {e : IdentityError} (run : call.runOn s = (.error e, s)) :
    (Server.reply call answer).run s = (.failure e, s) := by
  show (respond answer (call.runOn s).1, (call.runOn s).2) = _
  rw [run]
  rfl

theorem answer_get {owner segment deviceId : String} {fresh : Fresh} (server : Server)
    (route : Route.ofTarget? r.target = some (.deviceOf owner segment))
    (named : HttpPath.decode? owner = some organizationId)
    (asked : HttpPath.decode? segment = some deviceId) (get : r.method = .get) :
    server.answer fresh r = showDevice organizationId deviceId := by
  rw [answer, route]
  simp only [answerRoute, named, asked, get]
  rfl

theorem answer_put {owner segment deviceId : String} {fresh : Fresh} (server : Server)
    (route : Route.ofTarget? r.target = some (.deviceOf owner segment))
    (named : HttpPath.decode? owner = some organizationId)
    (asked : HttpPath.decode? segment = some deviceId) (put : r.method = .put) :
    server.answer fresh r = updateDevice organizationId deviceId r := by
  rw [answer, route]
  simp only [answerRoute, named, asked, put]
  rfl

/-- A device of another organization is not there for a request through this one. -/
theorem refused_foreign (h : s.Sound) {row : DeviceRow} (mem : row ∈ s.rows)
    (foreign : row.organizationId ≠ organizationId) {owner segment : String} (server : Server)
    (fresh : Fresh) (route : Route.ofTarget? r.target = some (.deviceOf owner segment))
    (named : HttpPath.decode? owner = some organizationId)
    (asked : HttpPath.decode? segment = some row.id) :
    (r.method = .get → Refused server fresh r s 404 "not_found") ∧
      (r.method = .put → ∀ target deviceData, requestedUpdate r = .ok (target, deviceData) →
        if target = .enrolled then Refused server fresh r s 403 "forbidden_transition"
        else Refused server fresh r s 404 "not_found") := by
  have elsewhere : ∀ x ∈ s.rows, x.id = row.id → x.organizationId ≠ organizationId := by
    intro x hx same
    rw [DeviceRow.eq_of_id h.ids hx mem same]
    exact foreign
  constructor
  · intro get
    obtain ⟨text, run⟩ := deviceGet_of_foreign h elsewhere
    refine .of_run (.notFound text) ?_
    rw [answer_get server route named asked get]
    exact reply_of_error run
  · intro put target deviceData read
    have answered : ∀ e,
        (deviceUpdate organizationId row.id target deviceData).runOn s = (.error e, s) →
        (server.answer fresh r).run s = (.failure e, s) := by
      intro e run
      rw [answer_put server route named asked put]
      refine reply_of_error ?_
      rw [runOn_bind_of_ok (runOn_ofExcept_eq_ok_iff.2 ⟨read, rfl⟩)]
      exact run
    split
    · next enrolled =>
      obtain ⟨text, run⟩ := deviceUpdate_enrolled organizationId row.id deviceData s
      exact .of_run _ (answered _ (enrolled ▸ run))
    · next waits =>
      obtain ⟨text, run⟩ := deviceUpdate_of_foreign h elsewhere waits deviceData
      exact .of_run _ (answered _ run)

/-- Stores that agree on an organization and its devices answer a request through it alike, whatever
else they hold: with the same status, the same code and, on success, the same body, in which only a
list may be in another order. The order is the same too if the stores are of one kind or no device
of the organization overtakes another one. The answer changes nothing of another organization, and
the stores still agree after it. A device of another organization is not found, and cannot be
enrolled, whichever the update. -/
theorem tenant_isolated {s t : Store} (reached : s.Reachable) (reached' : t.Reachable)
    {organizationId : String} (same : s.SameTenant organizationId t) {r : HttpRequest}
    (through : Through organizationId r) (server : Server) (fresh : Fresh) :
    HttpResponse.Alike HttpResponse.SameButOrder
      ((server.answer fresh r).run s).1 ((server.answer fresh r).run t).1 ∧
    (s.kind = t.kind ∨ s.NoOvertaking organizationId ∨
        (∃ owner segment, Route.ofTarget? r.target = some (.deviceOf owner segment)) →
      ((server.answer fresh r).run s).1.status = 200 →
        ((server.answer fresh r).run s).1.body = ((server.answer fresh r).run t).1.body) ∧
    s.SameOthers organizationId ((server.answer fresh r).run s).2 ∧
    ((server.answer fresh r).run s).2.SameTenant organizationId
      ((server.answer fresh r).run t).2 ∧
    ∀ row ∈ s.rows, row.organizationId ≠ organizationId → ∀ owner segment,
      Route.ofTarget? r.target = some (.deviceOf owner segment) →
      HttpPath.decode? segment = some row.id →
        (r.method = .get → Refused server fresh r s 404 "not_found") ∧
        (r.method = .put → ∀ target deviceData, requestedUpdate r = .ok (target, deviceData) →
          if target = .enrolled then Refused server fresh r s 403 "forbidden_transition"
          else Refused server fresh r s 404 "not_found") := by
  have hs := reached.sound
  have ht := reached'.sound
  have reordered : Isolated organizationId HttpResponse.SameButOrder (server.answer fresh r) s t :=
    isolated_answer same hs ht through (fun _ => .inl rfl)
      (fun _ _ listed listed' perm _ _ => .inr ⟨listed, listed', perm, rfl, rfl⟩) server fresh
  refine ⟨reordered.alike, fun ordered => ?_, reordered.others, reordered.tenant, ?_⟩
  · suffices equal : Isolated organizationId (· = ·) (server.answer fresh r) s t from
      equal.alike.body
    refine isolated_answer same hs ht through (fun _ => rfl) ?_ server fresh
    intro owner route listed listed' _ read read'
    have eq : s.listDevices organizationId = t.listDevices organizationId := by
      rcases ordered with kind_eq | none | ⟨_, _, other⟩
      · exact same.listDevices_eq hs ht kind_eq
      · exact same.listDevices_eq_of_noOvertaking hs ht none
      · cases route.symm.trans other
    rw [Except.ok.inj (read.symm.trans (eq.trans read'))]
  · intro row mem foreign owner segment route asked
    cases through with
    | devices other => cases route.symm.trans other
    | deviceOf same_route named =>
      cases route.symm.trans same_route
      exact refused_foreign hs mem foreign server fresh route named asked

/-- Two organizations and a device of the second. -/
def neighbours : Store :=
  [Call.createOrganization "o" ⟨"acme", "", "", ""⟩, .createOrganization "p" ⟨"bolt", "", "", ""⟩,
    .createDevice "e" ⟨"p", "bolt", "y", "1", ⟨"", "", "", ""⟩⟩].foldl
      (fun s call => (s.perform call).2) (.memory .empty)

/-- A device of the first organization comes in. -/
def newcomer : Store :=
  (neighbours.perform (.createDevice "d" ⟨"o", "acme", "x", "1", ⟨"", "", "", ""⟩⟩)).2

/-- A look at the device of the first organization through the second. -/
def foreignGet : HttpRequest where
  method := .get
  target := "/v1/device/p/d"
  headers := []
  body := []

theorem tenant_isolated_neighbours :
    ((acmeServer.answer (freshId "") foreignGet).run newcomer).1.status =
        ((acmeServer.answer (freshId "") foreignGet).run neighbours).1.status ∧
      Refused acmeServer (freshId "") foreignGet newcomer 404 "not_found" := by
  have reached : neighbours.Reachable := Store.Reachable.memory.performAll _
  have reached_newcomer : newcomer.Reachable := reached.perform _
  have same : newcomer.SameTenant "p" neighbours := by
    refine ⟨by decide +kernel, fun r owned => ?_⟩
    have rows : newcomer.rows = neighbours.rows ++
      [⟨"d", "o", ⟨"acme", "x", "1", "", ""⟩, ⟨"", "", "", ""⟩, 1, ""⟩] := by decide +kernel
    rw [rows, List.mem_append, List.mem_singleton]
    exact or_iff_left fun new => absurd (new ▸ owned) (by decide)
  have route : Route.ofTarget? foreignGet.target = some (.deviceOf "p" "d") := by decide +kernel
  have named : HttpPath.decode? "p" = some "p" := by decide +kernel
  have asked : HttpPath.decode? "d" = some "d" := by decide +kernel
  obtain ⟨alike, _, _, _, refused⟩ := tenant_isolated reached_newcomer reached same
    (.deviceOf route named) acmeServer (freshId "")
  have device : ∃ row ∈ newcomer.rows, row.id = "d" ∧ row.organizationId = "o" := by
    decide +kernel
  obtain ⟨row, mem, id_eq, owner⟩ := device
  have foreign : row.organizationId ≠ "p" := by
    rw [owner]
    decide
  exact ⟨alike.status_eq, (refused row mem foreign "p" "d" route (id_eq ▸ asked)).1 rfl⟩

/-- A look at the devices of the organization `o`. -/
def markList : HttpRequest where
  method := .get
  target := "/v1/devices/o"
  headers := []
  body := []

theorem route_markList : Route.ofTarget? markList.target = some (.devices "o") := by
  decide +kernel

theorem decode_o : HttpPath.decode? "o" = some "o" := by
  decide +kernel

theorem answer_markList (server : Server) (fresh : Fresh) :
    server.answer fresh markList = listDevices "o" := by
  rw [answer, route_markList]
  simp only [answerRoute, decode_o]
  rfl

theorem sameTenant_mark : (Store.withMark (.memory .empty)).SameTenant "o"
    (Store.withMark (.database .empty)) := by
  have rows :
      (Store.withMark (.memory .empty)).rows = (Store.withMark (.database .empty)).rows := by
    decide +kernel
  refine ⟨by decide +kernel, fun r _ => ?_⟩
  rw [rows]

/-- A database lists the brands `a` and `a!` in this order, a store in memory in the other. -/
theorem devices_mark_reordered : ¬ ∀ (s t : Store) (organizationId : String) (r : HttpRequest)
    (server : Server) (fresh : Fresh), s.Reachable → t.Reachable → s.SameTenant organizationId t →
      Through organizationId r → ((server.answer fresh r).run s).1.status = 200 →
        ((server.answer fresh r).run s).1.body = ((server.answer fresh r).run t).1.body := by
  intro claim
  have through : Through "o" markList := .devices route_markList decode_o
  have bodies := claim _ _ "o" markList acmeServer (freshId "") Store.reachable_withMark
    Store.reachable_withMark_database sameTenant_mark through
  obtain ⟨listed, listed'⟩ := Store.listDevices_withMark
  have answered {s : Store} {listed : List Enrollment} (read : s.listDevices "o" = .ok listed) :
      ((acmeServer.answer (freshId "") markList).run s).1 = .devices listed := by
    rw [answer_markList]
    show respond _ (s.listDevices "o") = _
    rw [read]
    rfl
  rw [answered listed, answered listed'] at bodies
  exact absurd (congrArg (Option.map Json.toText) (bodies rfl)) (by decide +kernel)

end Server

end FleetIdentity
