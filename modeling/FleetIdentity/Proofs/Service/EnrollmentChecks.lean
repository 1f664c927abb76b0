import FleetIdentity.Proofs.Service.EnrolledDevice
import FleetIdentity.Proofs.Store.OneDevice

/-!
# Which check decides an enrollment

The pair is checked before the store is asked: the kinds of the two assertions, then a list of
checks on their headers, of which the first that fails is the answer. Only then does the store
decide, by whether it finds the device and in which status. An enrollment that passes changes this
one device and answers with what is read of it afterwards.

The order in which the two assertions arrive does not matter. What a store finds for a brand, a
model and a serial number is taken as its read of the device gives it.
-/

namespace FleetIdentity

variable {model serial first second : Assertion} {α β : Type}

/-! ### The checks on the headers -/

/-- A check of one or of both assertions of a pair. -/
inductive PairCheck where
  /-- A header is there and is a text. -/
  | text (kind : AssertionKind) (name : String)
  /-- A header is the same in both assertions. -/
  | agreed (name : String)
  /-- A header is a text if it is there. -/
  | optionalText (kind : AssertionKind) (name : String)
  /-- The text of a header is not blank. -/
  | present (kind : AssertionKind) (name : String)

namespace PairCheck

/-- The assertion of a kind. -/
def pick (model serial : Assertion) : AssertionKind → Assertion
  | .model => model
  | .serial => serial

/-- The failure that a header of an assertion is a list. -/
def listFailure (a : Assertion) (name : String) : IdentityError :=
  .assertionType s!"header `{name}` of {a.typeName} assertion must be text, found a list"

/-- What a check fails with, if it fails. -/
def failure (model serial : Assertion) : PairCheck → Option IdentityError
  | text kind name =>
    match (pick model serial kind).headers.get? name with
    | none => some (.missingHeader name)
    | some (HeaderValue.list _) => some (listFailure (pick model serial kind) name)
    | some (HeaderValue.text _) => none
  | agreed name =>
    if model.headers.get? name = serial.headers.get? name then none
    else some (.mismatch s!"model and serial assertions disagree on `{name}`")
  | optionalText kind name =>
    match (pick model serial kind).headers.get? name with
    | some (HeaderValue.list _) => some (listFailure (pick model serial kind) name)
    | _ => none
  | present kind name =>
    match (pick model serial kind).headers.get? name with
    | some (HeaderValue.text value) =>
      if isBlank value then some (.validation s!"{name} must not be empty") else none
    | _ => none

/-- A header that both assertions must have as the same text. -/
def bothTexts (name : String) : List PairCheck :=
  [text .model name, text .serial name, agreed name]

/-- The checks on the headers of a pair, in their order. -/
def all : List PairCheck :=
  bothTexts brandHeader ++ (bothTexts modelHeader ++
    [text .serial serialHeader, text .serial deviceKeyHeader, optionalText .model storeHeader,
      present .model brandHeader, present .model modelHeader, present .serial serialHeader,
      present .serial deviceKeyHeader])

/-- What the first check that fails fails with. -/
def firstFailure (model serial : Assertion) (checks : List PairCheck) : Option IdentityError :=
  checks.findSome? (failure model serial)

theorem firstFailure_cons (check : PairCheck) (checks : List PairCheck) :
    firstFailure model serial (check :: checks) =
      (check.failure model serial).or (firstFailure model serial checks) := by
  rw [firstFailure, List.findSome?_cons, firstFailure]
  cases check.failure model serial <;> rfl

theorem firstFailure_append (checks more : List PairCheck) :
    firstFailure model serial (checks ++ more) =
      (firstFailure model serial checks).or (firstFailure model serial more) :=
  List.findSome?_append

end PairCheck

/-- The outcome is the failure, or a success if there is none. -/
inductive DecidedBy : Option IdentityError → Except IdentityError α → Prop where
  | failed (e : IdentityError) : DecidedBy (some e) (.error e)
  | passed (a : α) : DecidedBy none (.ok a)

namespace DecidedBy

theorem eq_error {e : IdentityError} {outcome : Except IdentityError α}
    (h : DecidedBy (some e) outcome) : outcome = .error e := by
  cases h
  rfl

theorem eq_ok {outcome : Except IdentityError α} (h : DecidedBy none outcome) :
    ∃ a, outcome = .ok a := by
  cases h with
  | passed a => exact ⟨a, rfl⟩

/-- What is decided first goes before what is decided after a success. -/
theorem bind {earlier later : Option IdentityError} {x : Except IdentityError α}
    {f : α → Except IdentityError β} (hx : DecidedBy earlier x)
    (hf : ∀ a, x = .ok a → DecidedBy later (f a)) : DecidedBy (earlier.or later) (x >>= f) := by
  cases hx with
  | failed e => exact .failed e
  | passed a => exact hf a rfl

theorem requiredText (kind : AssertionKind) (name : String) :
    DecidedBy ((PairCheck.text kind name).failure model serial)
      ((PairCheck.pick model serial kind).requiredText name) := by
  rw [PairCheck.failure, Assertion.requiredText, Assertion.optionalText]
  cases (PairCheck.pick model serial kind).headers.get? name with
  | none => exact .failed _
  | some value =>
    cases value with
    | text text => exact .passed text
    | list items => exact .failed _

theorem optionalText (kind : AssertionKind) (name : String) :
    DecidedBy ((PairCheck.optionalText kind name).failure model serial)
      ((PairCheck.pick model serial kind).optionalText name) := by
  rw [PairCheck.failure, Assertion.optionalText]
  cases (PairCheck.pick model serial kind).headers.get? name with
  | none => exact .passed none
  | some value =>
    cases value with
    | text text => exact .passed (some text)
    | list items => exact .failed _

theorem requireField {kind : AssertionKind} {name text : String}
    (there : (PairCheck.pick model serial kind).headers.get? name = some (.text text)) :
    DecidedBy ((PairCheck.present kind name).failure model serial)
      (FleetIdentity.requireField name text) := by
  rw [PairCheck.failure, there, FleetIdentity.requireField]
  dsimp only
  cases isBlank text with
  | true => exact .failed _
  | false => exact .passed ()

theorem agreedText (name : String) :
    DecidedBy (PairCheck.firstFailure model serial (PairCheck.bothTexts name))
      (FleetIdentity.agreedText model serial name) := by
  rw [PairCheck.bothTexts, PairCheck.firstFailure_cons, PairCheck.firstFailure_cons,
    PairCheck.firstFailure_cons, FleetIdentity.agreedText]
  refine (requiredText .model name).bind fun text in_model => ?_
  refine (requiredText .serial name).bind fun other in_serial => ?_
  have in_model : model.headers.get? name = some (.text text) :=
    Assertion.requiredText_eq_ok_iff.1 in_model
  have in_serial : serial.headers.get? name = some (.text other) :=
    Assertion.requiredText_eq_ok_iff.1 in_serial
  rw [PairCheck.failure, in_model, in_serial]
  by_cases same : text = other
  · subst same
    rw [if_pos rfl, if_neg fun ne => ne rfl]
    exact .passed text
  · have differ : some (HeaderValue.text text) ≠ some (.text other) := by simpa using same
    rw [if_neg differ, if_pos same]
    exact .failed _

/-- The first failed check of the headers is the failure of the pair. -/
theorem ofAssertions : DecidedBy (PairCheck.firstFailure model serial PairCheck.all)
    (EnrollmentRequest.ofAssertions model serial) := by
  rw [PairCheck.all, PairCheck.firstFailure_append, PairCheck.firstFailure_append,
    EnrollmentRequest.ofAssertions]
  simp only [PairCheck.firstFailure_cons]
  refine (agreedText brandHeader).bind fun brand brands => ?_
  refine (agreedText modelHeader).bind fun modelName models => ?_
  refine (requiredText .serial serialHeader).bind fun serialNumber serials => ?_
  refine (requiredText .serial deviceKeyHeader).bind fun deviceKey keys => ?_
  refine (optionalText .model storeHeader).bind fun store _ => ?_
  have brand_there := (agreedText_eq_ok_iff.1 brands).1
  have model_there := (agreedText_eq_ok_iff.1 models).1
  have serial_there := Assertion.requiredText_eq_ok_iff.1 serials
  have key_there := Assertion.requiredText_eq_ok_iff.1 keys
  refine bind (@requireField model serial .model _ _ brand_there) fun _ _ => ?_
  refine bind (@requireField model serial .model _ _ model_there) fun _ _ => ?_
  refine bind (@requireField model serial .serial _ _ serial_there) fun _ _ => ?_
  refine bind (@requireField model serial .serial _ _ key_there) fun _ _ => ?_
  exact .passed _

end DecidedBy

/-! ### The pair -/

/-- The failure of two assertions that are no pair. -/
def pairFailure (first second : Assertion) : IdentityError :=
  .assertionType
    s!"expected a model and a serial assertion, got `{first.typeName}` and `{second.typeName}`"

theorem pairAssertions_of_not (unpaired : ∀ model serial, ¬ IsPair first second model serial) :
    pairAssertions first second = .error (pairFailure first second) := by
  cases paired : pairAssertions first second with
  | ok both =>
    obtain ⟨model, serial⟩ := both
    exact absurd (pairAssertions_eq_ok_iff.1 paired) (unpaired model serial)
  | error e =>
    unfold pairAssertions at paired
    split at paired
    · cases paired
    · cases paired
    · exact paired.symm

theorem ofPair_of_isPair (pair : IsPair first second model serial) :
    EnrollmentRequest.ofPair first second = EnrollmentRequest.ofAssertions model serial := by
  rw [EnrollmentRequest.ofPair, pairAssertions_eq_ok_iff.2 pair]
  rfl

namespace IdentityService

open StoreCall

variable {s : Store} {request : EnrollmentRequest}

/-! ### The store -/

/-- What an enrollment that asks for something does to a store, by what the store finds. -/
structure EnrollsFound (s : Store) (first second : Assertion) (request : EnrollmentRequest) :
    Prop where
  unknown : (∀ e, s.getDevice request.brand request.model request.serialNumber ≠ .ok e) →
    (enrollDevice first second).runOn s = (.error (.notRegistered request.naturalKey), s)
  enrolled : ∀ e, s.getDevice request.brand request.model request.serialNumber = .ok e →
    e.status = .enrolled →
      (enrollDevice first second).runOn s = (.error (.alreadyEnrolled request.naturalKey), s)
  disabled : ∀ e, s.getDevice request.brand request.model request.serialNumber = .ok e →
    e.status = .disabled →
      (enrollDevice first second).runOn s = (.error (.disabled request.naturalKey), s)
  waiting : ∀ e, s.getDevice request.brand request.model request.serialNumber = .ok e →
    e.status = .waiting →
      ∃ s', (enrollDevice first second).runOn s = (.ok (e.enrolled request), s') ∧
        s.ChangesOnly s' (e.enrolled request)

/-- An enrollment is decided by the first check that fails. Up to the checks of the headers the
store is not asked. -/
structure EnrollsExactly (s : Store) (first second : Assertion) : Prop where
  unpaired : (∀ model serial, ¬ IsPair first second model serial) → ∀ t : Store,
    (enrollDevice first second).runOn t = (.error (pairFailure first second), t)
  refused : ∀ model serial, IsPair first second model serial →
    ∀ e, PairCheck.firstFailure model serial PairCheck.all = some e → ∀ t : Store,
      (enrollDevice first second).runOn t = (.error e, t)
  passed : ∀ model serial, IsPair first second model serial →
    PairCheck.firstFailure model serial PairCheck.all = none →
      ∃ request, Asks model serial request ∧ EnrollsFound s first second request

theorem enrollDevice_refused {e : IdentityError}
    (refused : EnrollmentRequest.ofPair first second = .error e) (t : Store) :
    (enrollDevice first second).runOn t = (.error e, t) := by
  rw [enrollDevice, refused]
  rfl

theorem enrollee_of_found {e : Enrollment}
    (found : s.getDevice request.brand request.model request.serialNumber = .ok e) :
    (enrollee request).runOn s = (.ok e, s) := by
  rw [runOn, enrollee, found]

theorem enrollee_of_unknown (h : s.Sound)
    (unknown : ∀ e, s.getDevice request.brand request.model request.serialNumber ≠ .ok e) :
    (enrollee request).runOn s = (.error (.notRegistered request.naturalKey), s) := by
  cases read : s.getDevice request.brand request.model request.serialNumber with
  | ok e => exact absurd read (unknown e)
  | error failure =>
    rw [Store.getDevice_eq h] at read
    have missing := foundOr_eq_error read
    rw [runOn, enrollee, Store.getDevice_eq h, read, missing]
    rfl

/-- A request that the pair makes is decided by the store. -/
theorem enrollsFound_of_ofPair (h : s.Sound)
    (asked : EnrollmentRequest.ofPair first second = .ok request) :
    EnrollsFound s first second request := by
  have asks : (StoreCall.ofExcept (EnrollmentRequest.ofPair first second)).runOn s =
      (.ok request, s) := runOn_ofExcept_eq_ok_iff.2 ⟨asked, rfl⟩
  have refused {e : Enrollment}
      (found : s.getDevice request.brand request.model request.serialNumber = .ok e)
      (not_waiting : e.status ≠ .waiting) : (enrollDevice first second).runOn s =
        (.error (enrollmentRefusal e.status request.naturalKey), s) := by
    rw [enrollDevice, runOn_bind_of_ok asks, runOn_bind_of_ok (enrollee_of_found found),
      if_pos not_waiting]
    rfl
  constructor
  case unknown =>
    intro unknown
    rw [enrollDevice, runOn_bind_of_ok asks]
    exact runOn_bind_of_error (enrollee_of_unknown h unknown)
  case enrolled =>
    intro e found status
    rw [refused found (by rw [status]; decide), status]
    rfl
  case disabled =>
    intro e found status
    rw [refused found (by rw [status]; decide), status]
    rfl
  case waiting =>
    intro e found waiting
    obtain ⟨s', made, changes⟩ := h.enrollDevice_changesOnly found waiting
    refine ⟨s', ?_, changes⟩
    rw [enrollDevice, runOn_bind_of_ok asks, runOn_bind_of_ok (enrollee_of_found found),
      if_neg fun ne => ne waiting]
    exact runOn_write_eq_ok_iff.2 made

/-- Every enrollment is decided by the first of its checks that fails, and one that passes them all
changes its device and nothing else. -/
theorem enrollDevice_exact (reached : s.Reachable) (first second : Assertion) :
    EnrollsExactly s first second where
  unpaired none t := by
    apply enrollDevice_refused
    rw [EnrollmentRequest.ofPair, pairAssertions_of_not none]
    rfl
  refused model serial pair e failed t := by
    apply enrollDevice_refused
    have decided := @DecidedBy.ofAssertions model serial
    rw [failed] at decided
    rw [ofPair_of_isPair pair]
    exact decided.eq_error
  passed model serial pair none_failed := by
    have decided := @DecidedBy.ofAssertions model serial
    rw [none_failed] at decided
    obtain ⟨request, asked⟩ := decided.eq_ok
    refine ⟨request, EnrollmentRequest.ofAssertions_eq_ok_iff.1 asked, ?_⟩
    exact enrollsFound_of_ofPair reached.sound ((ofPair_of_isPair pair).trans asked)

/-! ### The device of brand `a/b` -/

theorem enrollDevice_exact_slash : ∃ s',
    (enrollDevice (serialOf "a/b" "c" "s") (modelOf "a/b" "c")).runOn
        (Store.withDevice slashDevice .waiting) = (.ok slashAnswer, s') ∧
      (Store.withDevice slashDevice .waiting).ChangesOnly s' slashAnswer := by
  have no_failure : PairCheck.firstFailure (modelOf "a/b" "c") (serialOf "a/b" "c" "s")
      PairCheck.all = none := by
    decide +kernel
  have found : (Store.withDevice slashDevice .waiting).getDevice "a/b" "c" "s" =
      .ok slashWaiting := by
    decide +kernel
  have computed : EnrollmentRequest.ofAssertions (modelOf "a/b" "c") (serialOf "a/b" "c" "s") =
      .ok ⟨"a/b", "c", "s", "", "k"⟩ := by
    decide +kernel
  obtain ⟨request, asks, enrolls⟩ := (enrollDevice_exact reachable_slash
    (serialOf "a/b" "c" "s") (modelOf "a/b" "c")).passed _ _ ⟨.inr ⟨rfl, rfl⟩, rfl, rfl⟩ no_failure
  cases computed.symm.trans (EnrollmentRequest.ofAssertions_eq_ok_iff.2 asks)
  exact enrolls.waiting slashWaiting found rfl

end IdentityService

end FleetIdentity
