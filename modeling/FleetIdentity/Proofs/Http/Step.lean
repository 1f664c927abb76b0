import FleetIdentity.Http.Server
import FleetIdentity.Proofs.Assertion.Framing
import FleetIdentity.Proofs.Service.Outcomes

/-!
# What one request does to the store

A request is refused, reads, or makes exactly one change: an organization more, a device more, an
enrollment or a change of status. Which of these it is follows from its route and its method, and a
status other than 200 means that the store is what it was.
-/

namespace FleetIdentity.Server

open StoreCall IdentityService

/-- What the answer to a request does to the store, by the status of the response. -/
inductive Effect (server : Server) (r : HttpRequest) (status : Nat) (s s' : Store) : Prop where
  | refused (failed : status ≠ 200) (same : s' = s)
  | read (no_put : r.method ≠ .put) (same : s' = s)
  | organization {id answer : String} {new : NewOrganization} (post : r.method = .post)
      (ok : status = 200) (done : s.createOrganization id new = .ok (answer, s'))
  | device {id answer : String} {new : NewDevice} (post : r.method = .post)
      (ok : status = 200) (done : s.createDevice id new = .ok (answer, s'))
  | enrolled {first second : Assertion} {e : Enrollment} (post : r.method = .post)
      (route : Route.ofTarget? r.target = some .enroll) (ok : status = 200)
      (decoded : server.decoder.decode r.body = .ok [first, second])
      (done : (IdentityService.enrollDevice first second).runOn s = (.ok e, s'))
  | updated {owner segment : String} {row : DeviceRow} {target : Status}
      {deviceData : Option String}
      (route : Route.ofTarget? r.target = some (.deviceOf owner segment))
      (named : HttpPath.decode? segment = some row.id) (mem : row ∈ s.rows)
      (waits : target ≠ .enrolled) (ok : status = 200)
      (done : s.Becomes s' s.organizations
        (DeviceRow.replaceIn s.rows (row.administered target deviceData)))

variable {server : Server} {s s' : Store} {r : HttpRequest} {response : HttpResponse}

theorem httpStatus_ne_ok (e : IdentityError) : e.httpStatus ≠ 200 := by
  unfold IdentityError.httpStatus
  split <;> decide

/-- The status of a reply tells whether its call succeeded. -/
theorem reply_cases {α : Type} {call : StoreCall α} {answer : α → List (String × Json)}
    (h : (reply call answer).run s = (response, s')) :
    (∃ e, call.runOn s = (.error e, s') ∧ response.status ≠ 200) ∨
      ∃ a, call.runOn s = (.ok a, s') ∧ response.status = 200 := by
  have run : (respond answer (call.runOn s).1, (call.runOn s).2) = (response, s') := h
  rcases call_run : call.runOn s with ⟨outcome, t⟩
  rw [call_run] at run
  cases run
  cases outcome with
  | error e => exact .inl ⟨e, rfl, httpStatus_ne_ok e⟩
  | ok a => exact .inr ⟨a, rfl, rfl⟩

/-- A reply to an atomic call that fails is a refusal. -/
theorem Effect.of_reply {α : Type} {call : StoreCall α} {answer : α → List (String × Json)}
    (atomic : call.Atomic) (h : (reply call answer).run s = (response, s'))
    (ok : ∀ a, call.runOn s = (.ok a, s') → response.status = 200 →
      server.Effect r response.status s s') : server.Effect r response.status s s' := by
  rcases reply_cases h with ⟨e, run, failed⟩ | ⟨a, run, success⟩
  · exact .refused failed (atomic _ _ _ run)
  · exact ok a run success

theorem Effect.of_reading {α : Type} {call : StoreCall α} {answer : α → List (String × Json)}
    (reading : call.Reading) (no_put : r.method ≠ .put)
    (h : (reply call answer).run s = (response, s')) : server.Effect r response.status s s' :=
  .of_reply reading.atomic h fun _ run _ => .read no_put (reading.eq run)

/-- The calls that read the body of a request first are atomic if the rest of them is. -/
theorem Effect.of_body {α β : Type} {read : Except IdentityError α} {call : α → StoreCall β}
    {answer : β → List (String × Json)}
    (h : (reply (StoreCall.ofExcept read >>= call) answer).run s = (response, s'))
    (atomic : ∀ a, (call a).Atomic)
    (ok : ∀ a b, read = .ok a → (call a).runOn s = (.ok b, s') → response.status = 200 →
      server.Effect r response.status s s') : server.Effect r response.status s s' := by
  refine .of_reply ((reading_ofExcept read).bind_atomic atomic) h fun b run success => ?_
  obtain ⟨a, t, first, rest⟩ := runOn_bind_eq_ok_iff.1 run
  obtain ⟨read_eq, same⟩ := runOn_ofExcept_eq_ok_iff.1 first
  subst same
  exact ok a b read_eq rest success

/-- A bare answer that is no success leaves the store alone. -/
theorem Effect.of_bare {status : Nat} (failed : status ≠ 200)
    (h : (pure (HttpResponse.bare status) : StateM Store HttpResponse).run s = (response, s')) :
    server.Effect r response.status s s' := by
  cases h
  exact .refused failed rfl

/-! ### Route by route -/

variable {fresh : Fresh}

theorem effect_of_registerOrganization (post : r.method = .post)
    (h : (server.registerOrganization fresh r).run s = (response, s')) :
    server.Effect r response.status s s' := by
  refine .of_body h atomic_registerOrganization fun request id _ registered ok => ?_
  obtain ⟨new, _, _, created⟩ := registerOrganization_ok registered
  exact .organization post ok created

theorem effect_of_registerDevice (post : r.method = .post)
    (h : (server.registerDevice fresh r).run s = (response, s')) :
    server.Effect r response.status s s' := by
  refine .of_body h atomic_registerDevice fun request id _ registered ok => ?_
  obtain ⟨new, _, _, _, created⟩ := registerDevice_ok registered
  exact .device post ok created

theorem effect_of_enroll (post : r.method = .post)
    (route : Route.ofTarget? r.target = some .enroll)
    (h : (server.enroll r).run s = (response, s')) : server.Effect r response.status s s' := by
  unfold enroll at h
  split at h
  · exact .of_bare (by decide) h
  · refine .of_body h (fun pair => atomic_enrollDevice pair.1 pair.2)
      fun pair e decoded enrolled ok => ?_
    exact .enrolled post route ok (Decoder.decodePair_eq_ok_iff.1 decoded) enrolled

theorem effect_of_updateDevice (h : s.Sound) {owner organization segment device : String}
    (route : Route.ofTarget? r.target = some (.deviceOf owner segment))
    (named : HttpPath.decode? segment = some device)
    (run : (updateDevice organization device r).run s = (response, s')) :
    server.Effect r response.status s s' := by
  rcases reply_cases run with ⟨e, call, failed⟩ | ⟨change, call, ok⟩
  · refine .refused failed ?_
    rcases runOn_bind_eq_error_iff.1 call with unread | ⟨⟨target, deviceData⟩, t, read, update⟩
    · exact (reading_ofExcept _).eq unread
    · cases (reading_ofExcept _).eq read
      rcases deviceUpdate_run h organization device target deviceData with
        ⟨e', same⟩ | ⟨row, _, status, t, _, _, same, _⟩
      · exact (congrArg Prod.snd (same.symm.trans update)).symm
      · cases same.symm.trans update
  · obtain ⟨⟨target, deviceData⟩, t, read, update⟩ := runOn_bind_eq_ok_iff.1 call
    cases (reading_ofExcept _).eq read
    rcases deviceUpdate_run h organization device target deviceData with
      ⟨e', same⟩ | ⟨row, mem, status, t, id_eq, waits, same, becomes⟩
    · cases same.symm.trans update
    · cases same.symm.trans update
      exact .updated route (id_eq ▸ named) mem waits ok becomes

/-- PUT is a method of the route of a single device alone. -/
theorem ne_put_of_allows {route : Route} (allowed : route.allows r.method = true)
    (other : ∀ owner segment, route ≠ .deviceOf owner segment) : r.method ≠ .put := by
  intro put
  rw [put] at allowed
  cases route with
  | deviceOf owner segment => exact other owner segment rfl
  | _ => cases allowed

theorem effect_of_answerRoute (h : s.Sound) {route : Route}
    (found : Route.ofTarget? r.target = some route) (allowed : route.allows r.method = true)
    (run : (server.answerRoute fresh r route).run s = (response, s')) :
    server.Effect r response.status s s' := by
  cases route with
  | health =>
    cases run
    exact .read (ne_put_of_allows allowed nofun) rfl
  | organization => exact effect_of_registerOrganization (beq_iff_eq.1 allowed) run
  | device => exact effect_of_registerDevice (beq_iff_eq.1 allowed) run
  | enroll => exact effect_of_enroll (beq_iff_eq.1 allowed) found run
  | organizations => exact .of_reading (reading_read _) (ne_put_of_allows allowed nofun) run
  | devices owner =>
    simp only [answerRoute] at run
    split at run
    · exact .of_reading (reading_read _) (ne_put_of_allows allowed nofun) run
    · exact .of_bare (by decide) run
  | deviceOf owner segment =>
    simp only [answerRoute] at run
    split at run
    · next organization device _ named =>
      split at run
      · exact effect_of_updateDevice h found named run
      · next no_put => exact .of_reading (reading_deviceGet _ _) no_put run
    · exact .of_bare (by decide) run

/-- Every answer of the service has one of the effects. -/
theorem effect_of_answer (h : s.Sound) (run : (server.answer fresh r).run s = (response, s')) :
    server.Effect r response.status s s' := by
  unfold answer at run
  split at run
  · exact .of_bare (by decide) run
  next route found =>
  split at run
  · exact .of_bare (by decide) run
  next allowed =>
    -- The answer to HEAD loses its body, but neither its status nor what it did.
    rcases routed : (server.answerRoute fresh r route).run s with ⟨inner, t⟩
    have effect : server.Effect r inner.status s t :=
      effect_of_answerRoute h found (by simpa using allowed) routed
    have rest : ((if r.method = .head then pure (HttpResponse.bare inner.status)
        else pure inner : StateM Store HttpResponse).run t) = (response, s') := by
      rw [← run, StateT.run_bind, routed]
      rfl
    split at rest
    · cases rest
      exact effect
    · cases rest
      exact effect

theorem Effect.sound {status : Nat} (h : s.Sound) (effect : server.Effect r status s s') :
    s'.Sound := by
  cases effect with
  | refused _ same =>
    rw [same]
    exact h
  | read _ same =>
    rw [same]
    exact h
  | organization _ _ done => exact h.write (.createOrganization done)
  | device _ _ done => exact h.write (.createDevice done)
  | enrolled _ _ _ _ done =>
    obtain ⟨request, _, enrolled⟩ := enrollDevice_ok done
    exact h.write (.enrollDevice enrolled)
  | updated _ _ mem _ _ becomes => exact h.replace mem becomes rfl rfl rfl ⟨_, rfl⟩

theorem Effect.unchanged {status : Nat} (effect : server.Effect r status s s')
    (failed : status ≠ 200) : s' = s := by
  cases effect with
  | refused _ same | read _ same => exact same
  | organization _ ok | device _ ok | enrolled _ _ ok | updated _ _ _ _ ok => exact absurd ok failed

end FleetIdentity.Server
