import FleetIdentity.Proofs.Http.EnrollmentTrace
import FleetIdentity.Proofs.Service.KeySecrecy

/-!
# No response tells a key of an organization

Two stores that differ at most in the keys of their organizations answer any sequence of requests
alike, response by response, if no request registers a device, and they differ at most in the same
keys afterwards. The two runs draw the same ids and the same randomness. Nothing is assumed of the
stores, of the issuer or of the bodies.

The registration of a device is left out because it has to depend on the key: it issues a
certificate under it.
-/

namespace FleetIdentity

namespace Server

open StoreCall IdentityService

/-- The request is for the registration of a device. -/
def RegistersDevice (r : HttpRequest) : Prop :=
  r.method = .post ∧ Route.ofTarget? r.target = some .device

/-- Answers requests one after the other, each with what is drawn for it. -/
def answerAll (server : Server) (requests : List (Fresh × HttpRequest)) :
    StateM Store (List HttpResponse) :=
  requests.mapM fun x => server.answer x.1 x.2

/-- On stores that differ at most in keys the response is the same, and they still differ at most in
keys after it. -/
def Blind (answer : StateM Store HttpResponse) : Prop :=
  ∀ (old old' : List Organization) (s t : Store), Store.SameButKeys old old' s t →
    (answer.run s).1 = (answer.run t).1 ∧
      Store.SameButKeys old old' (answer.run s).2 (answer.run t).2

variable {server : Server} {fresh : Fresh} {r : HttpRequest}

theorem Blind.pure (response : HttpResponse) : Blind (Pure.pure response) :=
  fun _ _ _ _ stores => ⟨rfl, stores⟩

/-- The response to a blind call shows no key if what it shows of an answer is what it shows of the
answer without keys. -/
theorem Blind.reply {α : Type} (blank : α → α) {call : StoreCall α}
    (blind : StoreCall.Blind blank call call) {answer : α → List (String × Json)}
    (shown : ∀ a, answer (blank a) = answer a) : Blind (Server.reply call answer) := by
  intro old old' s t stores
  obtain ⟨same, next⟩ := blind _ _ _ _ stores
  refine ⟨?_, next⟩
  show respond answer (call.runOn s).1 = respond answer (call.runOn t).1
  rcases map_eq_map_cases same with ⟨e, failed, failed'⟩ | ⟨a, b, done, done', eq⟩
  · rw [failed, failed']
  · have members : answer a = answer b := by
      rw [← shown a, ← shown b, eq]
    rw [done, done', respond, respond, members]

theorem Blind.head {answer : StateM Store HttpResponse} (blind : Blind answer) (r : HttpRequest) :
    Blind (do
      let response ← answer
      if r.method = .head then return .bare response.status else return response) := by
  intro old old' s t stores
  obtain ⟨same, next⟩ := blind _ _ _ _ stores
  by_cases head : r.method = .head
  · simp only [if_pos head]
    exact ⟨congrArg (fun response : HttpResponse => HttpResponse.bare response.status) same, next⟩
  · simp only [if_neg head]
    exact ⟨same, next⟩

/-! ### Route by route -/

theorem blind_listOrganizations : Blind listOrganizations :=
  .reply (List.map Organization.redacted) blind_organizationList fun organizations => by
    rw [List.map_map]
    rfl

theorem blind_listDevices (organization : String) : Blind (listDevices organization) :=
  .reply (List.map Enrollment.redacted) (blind_deviceList organization) fun devices => by
    rw [List.map_map]
    rfl

theorem blind_showDevice (organization device : String) : Blind (showDevice organization device) :=
  .reply Enrollment.redacted (blind_deviceGet organization device) fun _ => rfl

theorem blind_updateDevice (organization device : String) (r : HttpRequest) :
    Blind (updateDevice organization device r) :=
  .reply (fun change => change) (.bind_same (.ofExcept _) fun update =>
    blind_deviceUpdate organization device update.1 update.2) fun _ => rfl

theorem blind_enroll (server : Server) (r : HttpRequest) : Blind (server.enroll r) := by
  rw [enroll]
  split
  · exact .pure _
  · exact .reply Enrollment.redacted
      (.bind_same (.ofExcept _) fun pair => blind_enrollDevice pair.1 pair.2) fun _ => rfl

theorem blind_organization (server : Server) (fresh : Fresh) (r : HttpRequest) :
    Blind (server.registerOrganization fresh r) :=
  .reply (fun id => id) (.bind_same (.ofExcept _) fun request =>
    blind_registerOrganization server.service fresh request) fun _ => rfl

theorem blind_answerRoute {route : Route} (other : route ≠ .device) :
    Blind (server.answerRoute fresh r route) := by
  cases route with
  | health => exact .pure health
  | organization => exact blind_organization server fresh r
  | organizations => exact blind_listOrganizations
  | device => exact absurd rfl other
  | enroll => exact blind_enroll server r
  | devices owner =>
    rw [answerRoute]
    split
    · exact blind_listDevices _
    · exact .pure _
  | deviceOf owner id =>
    rw [answerRoute]
    split
    · split
      · exact blind_updateDevice _ _ r
      · exact blind_showDevice _ _
    · exact .pure _

theorem blind_answer (other : ¬ RegistersDevice r) : Blind (server.answer fresh r) := by
  rw [answer]
  cases found : Route.ofTarget? r.target with
  | none => exact .pure _
  | some route =>
    dsimp only
    by_cases allowed : route.allows r.method = true
    · rw [allowed]
      refine .head (blind_answerRoute ?_) r
      rintro rfl
      exact other ⟨eq_of_beq allowed, found⟩
    · rw [Bool.not_eq_true] at allowed
      rw [allowed]
      exact .pure _

/-! ### Sequences of requests -/

/-- A step for each request: what the first response leaves is what the next request finds. -/
theorem same_answerAll {old old' : List Organization} {s t : Store}
    (stores : Store.SameButKeys old old' s t) {requests : List (Fresh × HttpRequest)}
    (others : ∀ x ∈ requests, ¬ RegistersDevice x.2) :
    ((server.answerAll requests).run s).1 = ((server.answerAll requests).run t).1 ∧
      Store.SameButKeys old old' ((server.answerAll requests).run s).2
        ((server.answerAll requests).run t).2 := by
  induction requests generalizing s t with
  | nil => exact ⟨rfl, stores⟩
  | cons x requests ih =>
    have blind : Blind (server.answer x.1 x.2) := blind_answer (others x List.mem_cons_self)
    obtain ⟨first, next⟩ := blind _ _ _ _ stores
    obtain ⟨rest, last⟩ := ih next fun y mem => others y (List.mem_cons_of_mem x mem)
    simp only [answerAll, List.mapM_cons] at rest last ⊢
    exact ⟨congrArg₂ List.cons first rest, last⟩

/-- Stores of one kind that differ at most in keys of organizations give the same responses to the
same requests, none of which registers a device. The two stores that are left differ at most in
keys of the organizations that were there at the start: the later ones are equal. -/
theorem answerAll_hides_keys {s t : Store} (same : s.redacted = t.redacted)
    {requests : List (Fresh × HttpRequest)} (others : ∀ x ∈ requests, ¬ RegistersDevice x.2)
    (server : Server) :
    ((server.answerAll requests).run s).1 = ((server.answerAll requests).run t).1 ∧
      Store.SameButKeys s.organizations t.organizations ((server.answerAll requests).run s).2
        ((server.answerAll requests).run t).2 :=
  same_answerAll (.start same) others

/-- The organization `acme` with a key, and its device, which waits. -/
def keyedStore (rootKey : String) : Store :=
  .memory ⟨[⟨"o", "acme", "", rootKey, ""⟩],
    [⟨"d", "o", acmeDevice "", ⟨"", "", "", ""⟩, .waiting, ""⟩]⟩

/-- The device is disabled, another organization registers, and the devices of the first are
listed. -/
def otherRequests : List (Fresh × HttpRequest) :=
  [(freshId "", { jsonPost "/v1/device/o/d" "\x7b\"status\":3\x7d" with method := .put }),
    (freshId "p", jsonPost "/v1/organization" "\x7b\"name\":\"bolt\"\x7d"),
    (freshId "", ⟨.get, "/v1/devices/o", [], []⟩)]

theorem answerAll_hides_keys_acme :
    keyedStore "k" ≠ keyedStore "l" ∧
      ((acmeServer.answerAll otherRequests).run (keyedStore "k")).1.map (·.status) =
        [200, 200, 200] ∧
      ((acmeServer.answerAll otherRequests).run (keyedStore "k")).1 =
        ((acmeServer.answerAll otherRequests).run (keyedStore "l")).1 := by
  have others : ∀ x ∈ otherRequests, ¬ RegistersDevice x.2 := by
    simp only [otherRequests, List.forall_mem_cons, RegistersDevice]
    decide +kernel
  have same : (keyedStore "k").redacted = (keyedStore "l").redacted := rfl
  exact ⟨by decide, by decide +kernel, (answerAll_hides_keys same others acmeServer).1⟩

end Server

end FleetIdentity
