import FleetIdentity.Proofs.Assertion.Framing
import FleetIdentity.Proofs.Assertion.SignedStream
import FleetIdentity.Proofs.Http.Step

/-!
# Where an enrolled device comes from

A device that is enrolled at the end of a run was enrolled by a request whose signed pair named it,
and since then no update of it was answered with success. Requests are answered one after the other;
nothing is assumed of their bodies, of the ids that are handed in, or of the issuer.
-/

namespace FleetIdentity.Server

/-- A request and the response to it. -/
structure Exchange where
  request : HttpRequest
  response : HttpResponse

/-- The exchanges of a run of requests, and the store after them. -/
inductive Run (server : Server) (start : Store) : List Exchange → Store → Prop where
  | start : Run server start [] start
  | answer {exchanges : List Exchange} {s s' : Store} {fresh : Fresh} {r : HttpRequest}
      {response : HttpResponse} (run : Run server start exchanges s)
      (answered : (server.answer fresh r).run s = (response, s')) :
      Run server start (exchanges ++ [⟨r, response⟩]) s'

/-- The request is an update of the device with an id. -/
def IsUpdateOf (r : HttpRequest) (id : String) : Prop :=
  r.method = .put ∧ ∃ owner segment, Route.ofTarget? r.target = some (.deviceOf owner segment) ∧
    HttpPath.decode? segment = some id

/-- The exchange enrolled the device in a row: its body is a signed pair that asks for the device,
and the row holds what the pair says. -/
structure EnrolledBy (server : Server) (x : Exchange) (row : DeviceRow) : Prop where
  post : x.request.method = .post
  route : Route.ofTarget? x.request.target = some .enroll
  ok : x.response.status = 200
  pair : ∃ first second model serial request,
    server.decoder.decode x.request.body = .ok [first, second] ∧
    server.decoder.Reads x.request.body [first, second] ∧
    ((first = model ∧ second = serial) ∨ (first = serial ∧ second = model)) ∧
    model.typeName = "model" ∧ serial.typeName = "serial" ∧ Asks model serial request ∧
    request.naturalKey = row.device.naturalKey ∧
    row.device.deviceKey = request.deviceKey ∧ row.device.storeId = request.storeId

variable {server : Server} {s s' start : Store} {r : HttpRequest} {row : DeviceRow}

theorem naturalKey_eq_of_keyOf {kind : StoreKind} {request : EnrollmentRequest}
    (h : kind.keyOf row = kind.lookupKey request.brand request.model request.serialNumber) :
    request.naturalKey = row.device.naturalKey := by
  cases kind with
  | memory => exact (List.cons.inj h).1.symm
  | database =>
    obtain ⟨brand, rest⟩ := List.cons.inj h
    obtain ⟨modelName, rest⟩ := List.cons.inj rest
    obtain ⟨serialNumber, _⟩ := List.cons.inj rest
    rw [EnrollmentRequest.naturalKey, Device.naturalKey, naturalKey, brand, modelName, serialNumber]

/-- What one request does to the enrolled rows: a row is enrolled by it, or was enrolled before and
was not updated. -/
theorem enrolled_of_answer (h : s.Sound) {fresh : Fresh} {response : HttpResponse}
    (answered : (server.answer fresh r).run s = (response, s')) (mem : row ∈ s'.rows)
    (enrolled : row.statusCode = Status.enrolled.code) :
    server.EnrolledBy ⟨r, response⟩ row ∨
      (row ∈ s.rows ∧ (IsUpdateOf r row.id → response.status ≠ 200)) := by
  cases effect_of_answer h answered with
  | refused failed same => exact .inr ⟨same ▸ mem, fun _ => failed⟩
  | read no_put same => exact .inr ⟨same ▸ mem, fun update => absurd update.1 no_put⟩
  | organization post _ done =>
    obtain ⟨_, _, _, becomes⟩ := Store.createOrganization_ok done
    rw [becomes.rows_eq] at mem
    refine .inr ⟨mem, fun update => ?_⟩
    cases post.symm.trans update.1
  | device post _ done =>
    obtain ⟨_, _, _, _, becomes⟩ := Store.createDevice_ok done
    rw [becomes.rows_eq] at mem
    rcases List.mem_append.1 mem with mem | new
    · refine .inr ⟨mem, fun update => ?_⟩
      cases post.symm.trans update.1
    · -- A new device waits.
      cases List.mem_singleton.1 new
      have waits : Status.waiting = .enrolled := Status.code_inj.1 enrolled
      cases waits
  | @enrolled first second _ post route ok decoded done =>
    obtain ⟨request, pair, made⟩ := IdentityService.enrollDevice_ok done
    obtain ⟨old, old_mem, _, _, _, key, _, _, becomes⟩ := Store.enrollDevice_ok made
    rw [becomes.rows_eq] at mem
    rcases DeviceRow.mem_replaceIn mem with rfl | ⟨mem, _⟩
    · left
      obtain ⟨model, serial, order, model_type, serial_type, asked⟩ :=
        EnrollmentRequest.ofPair_eq_ok_iff.1 pair
      exact ⟨post, route, ok, first, second, model, serial, request, decoded,
        Decoder.reads_of_decode decoded, order, model_type, serial_type, asked,
        naturalKey_eq_of_keyOf key, rfl, rfl⟩
    · refine .inr ⟨mem, fun update => ?_⟩
      cases post.symm.trans update.1
  | @updated _ _ old target _ route named _ waits _ becomes =>
    rw [becomes.rows_eq] at mem
    rcases DeviceRow.mem_replaceIn mem with rfl | ⟨mem, other⟩
    · exact absurd (Status.code_inj.1 enrolled) waits
    · refine .inr ⟨mem, ?_⟩
      rintro ⟨_, owner, segment, same_route, same_named⟩
      cases route.symm.trans same_route
      have same : row.id = old.id := Option.some.inj (same_named.symm.trans named)
      exact absurd same other

theorem Run.extend (h : ∃ exchanges, Run server start exchanges s) {fresh : Fresh}
    (answered : ((server.answer fresh r).run s).2 = s') :
    ∃ exchanges, Run server start exchanges s' := by
  obtain ⟨exchanges, run⟩ := h
  rcases same : (server.answer fresh r).run s with ⟨response, t⟩
  rw [same] at answered
  subst answered
  exact ⟨_, run.answer same⟩

theorem Run.sound (h : start.Sound) {exchanges : List Exchange}
    (run : Run server start exchanges s) : s.Sound := by
  induction run with
  | start => exact h
  | answer _ answered ih => exact (effect_of_answer ih answered).sound ih

/-- Along a run from any sound store, an enrolled row was there at the start, or its enrollment is
one of the exchanges; no later update of it succeeded. -/
theorem Run.enrolled_cases (h : start.Sound) {exchanges : List Exchange}
    (run : Run server start exchanges s) (mem : row ∈ s.rows)
    (enrolled : row.statusCode = Status.enrolled.code) :
    (row ∈ start.rows ∧
        ∀ y ∈ exchanges, IsUpdateOf y.request row.id → y.response.status ≠ 200) ∨
      ∃ before x after, exchanges = before ++ x :: after ∧ server.EnrolledBy x row ∧
        ∀ y ∈ after, IsUpdateOf y.request row.id → y.response.status ≠ 200 := by
  -- The row in question is the one at the end. An exchange that did not make it found it in the
  -- store just as it is, so that the hypothesis applies to this very row.
  induction run with
  | start => exact .inl ⟨mem, nofun⟩
  | @answer exchanges s s' _ r response run answered ih =>
    rcases enrolled_of_answer (run.sound h) answered mem enrolled with made | ⟨mem, kept⟩
    · exact .inr ⟨exchanges, ⟨r, response⟩, [], rfl, made, nofun⟩
    · rcases ih mem with ⟨old, unchanged⟩ | ⟨before, x, after, split, made, unchanged⟩
      · refine .inl ⟨old, fun y hy => ?_⟩
        rcases List.mem_append.1 hy with hy | hy
        · exact unchanged y hy
        · cases List.mem_singleton.1 hy
          exact kept
      · refine .inr ⟨before, x, after ++ [⟨r, response⟩], ?_, made, fun y hy => ?_⟩
        · rw [split, List.append_assoc, List.cons_append]
        · rcases List.mem_append.1 hy with hy | hy
          · exact unchanged y hy
          · cases List.mem_singleton.1 hy
            exact kept

/-- A device that is enrolled after a run from an empty store was enrolled by an exchange of the
run, through a signed pair that asks for it, and no update of it succeeded after that. -/
theorem Run.enrolled_by_signed_pair (empty : start = .memory .empty ∨ start = .database .empty)
    {exchanges : List Exchange} (run : Run server start exchanges s) (mem : row ∈ s.rows)
    (enrolled : row.statusCode = Status.enrolled.code) :
    ∃ before x after, exchanges = before ++ x :: after ∧ server.EnrolledBy x row ∧
      ∀ y ∈ after, IsUpdateOf y.request row.id → y.response.status ≠ 200 := by
  rcases empty with rfl | rfl
  · rcases run.enrolled_cases Store.sound_memory_empty mem enrolled with ⟨old, _⟩ | found
    · cases old
    · exact found
  · rcases run.enrolled_cases Store.sound_database_empty mem enrolled with ⟨old, _⟩ | found
    · cases old
    · exact found

/-! ### A device that enrolls -/

/-- A service that trusts two keys of `acme`; its issuer gives out empty credentials. -/
def acmeServer : Server where
  service := {
    issuer := { issueOrganization _ _ _ := .ok ⟨"", ""⟩, issueDevice _ _ _ := .ok ⟨"", ""⟩ }
    mqttUrl := ""
    mqttPort := "" }
  decoder := Decoder.tabledDecoder

/-- A POST with a body of JSON. -/
def jsonPost (target body : String) : HttpRequest where
  method := .post
  target := target
  headers := [("content-type", "application/json")]
  body := Utf8.ofString body

def organizationPost : HttpRequest :=
  jsonPost "/v1/organization" "\x7b\"name\":\"acme\"\x7d"

def devicePost : HttpRequest :=
  jsonPost "/v1/device"
    "\x7b\"orgid\":\"o\",\"brand\":\"acme\",\"model\":\"x1\",\"serial\":\"S-1\"\x7d"

/-- The enrollment of the device by the two signed assertions. -/
def enrollPost : HttpRequest where
  method := .post
  target := "/v1/device/enroll"
  headers := []
  body := Utf8.encode (Lines.join ([Decoder.modelText, Decoder.serialText].map SignedText.text))

/-- The device of `acme` with a key. -/
def acmeDevice (deviceKey : String) : Device where
  brand := "acme"
  model := "x1"
  serialNumber := "S-1"
  storeId := ""
  deviceKey := deviceKey

/-- An id, with nothing drawn for certificates. -/
def freshId (id : String) : Fresh :=
  ⟨id, ⟨(0, 0), [], 0⟩⟩

theorem enrolled_by_signed_pair_acme : ∃ exchanges s, ∃ row ∈ s.rows,
    Run acmeServer (.memory .empty) exchanges s ∧ row.statusCode = Status.enrolled.code ∧
      ∃ before x after, exchanges = before ++ x :: after ∧ acmeServer.EnrolledBy x row ∧
        ∀ y ∈ after, IsUpdateOf y.request row.id → y.response.status ≠ 200 := by
  have organization : ((acmeServer.answer (freshId "o") organizationPost).run
      (.memory .empty)).2 = .memory ⟨[⟨"o", "acme", "", "", ""⟩], []⟩ := by
    decide +kernel
  have device : ((acmeServer.answer (freshId "d") devicePost).run
      (.memory ⟨[⟨"o", "acme", "", "", ""⟩], []⟩)).2 =
        .withDevice (acmeDevice "") .waiting := by
    decide +kernel
  have enroll : ((acmeServer.answer (freshId "") enrollPost).run
      (.withDevice (acmeDevice "") .waiting)).2 = .withDevice (acmeDevice "k") .enrolled := by
    decide +kernel
  obtain ⟨exchanges, run⟩ :=
    Run.extend (Run.extend (Run.extend ⟨[], .start⟩ organization) device) enroll
  have mem : DeviceRecord.row ⟨"d", "o", acmeDevice "k", ⟨"", "", "", ""⟩, .enrolled, ""⟩ ∈
      (Store.withDevice (acmeDevice "k") .enrolled).rows := List.mem_singleton.2 rfl
  exact ⟨exchanges, _, _, mem, run, rfl, Run.enrolled_by_signed_pair (.inl rfl) run mem rfl⟩

end FleetIdentity.Server
