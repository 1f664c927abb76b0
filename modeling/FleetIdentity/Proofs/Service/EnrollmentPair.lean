import FleetIdentity.Service.EnrollmentPair
import FleetIdentity.Proofs.Except

/-!
# What a pair of assertions asks for

A pair is accepted exactly if one is a model and the other a serial assertion and their headers are
those of `Asks`. The order of the checks, and with it which failure comes first, is not described.
-/

namespace FleetIdentity

namespace Assertion

variable {a : Assertion} {name text : String}

theorem optionalText_eq_ok_iff {found : Option String} :
    a.optionalText name = .ok found ↔ a.headers.get? name = found.map HeaderValue.text := by
  unfold optionalText
  split
  · next absent =>
    rw [absent]
    cases found <;> simp
  · next there =>
    rw [there]
    cases found <;> simp [eq_comm]
  · next items there =>
    rw [there]
    cases found <;> simp

theorem requiredText_eq_ok_iff :
    a.requiredText name = .ok text ↔ a.headers.get? name = some (.text text) := by
  simp only [requiredText, bind_eq_ok_iff, optionalText_eq_ok_iff]
  constructor
  · rintro ⟨found, there, h⟩
    cases found with
    | none => cases h
    | some other =>
      cases h
      exact there
  · intro there
    exact ⟨some text, there, rfl⟩

end Assertion

theorem agreedText_eq_ok_iff {model serial : Assertion} {name text : String} :
    agreedText model serial name = .ok text ↔
      model.headers.get? name = some (.text text) ∧
        serial.headers.get? name = some (.text text) := by
  simp only [agreedText, bind_eq_ok_iff, Assertion.requiredText_eq_ok_iff]
  constructor
  · rintro ⟨found, in_model, other, in_serial, h⟩
    split at h
    · cases h
    · next same =>
      cases h
      obtain rfl : text = other := by simpa using same
      exact ⟨in_model, in_serial⟩
  · rintro ⟨in_model, in_serial⟩
    refine ⟨text, in_model, text, in_serial, ?_⟩
    rw [if_neg fun ne => ne rfl]
    rfl

/-- One assertion is the model assertion and the other one the serial assertion. -/
structure IsPair (first second model serial : Assertion) : Prop where
  order : (first = model ∧ second = serial) ∨ (first = serial ∧ second = model)
  model_type : model.typeName = "model"
  serial_type : serial.typeName = "serial"

theorem pairAssertions_eq_ok_iff {first second model serial : Assertion} :
    pairAssertions first second = .ok (model, serial) ↔ IsPair first second model serial := by
  constructor
  · intro h
    unfold pairAssertions at h
    split at h
    · next first_kind second_kind =>
      cases h
      exact ⟨.inl ⟨rfl, rfl⟩, AssertionKind.ofType?_eq_some_iff.1 first_kind,
        AssertionKind.ofType?_eq_some_iff.1 second_kind⟩
    · next first_kind second_kind =>
      cases h
      exact ⟨.inr ⟨rfl, rfl⟩, AssertionKind.ofType?_eq_some_iff.1 second_kind,
        AssertionKind.ofType?_eq_some_iff.1 first_kind⟩
    · cases h
  · intro pair
    have model_kind : model.kind = some .model :=
      AssertionKind.ofType?_eq_some_iff.2 pair.model_type
    have serial_kind : serial.kind = some .serial :=
      AssertionKind.ofType?_eq_some_iff.2 pair.serial_type
    rcases pair.order with ⟨rfl, rfl⟩ | ⟨rfl, rfl⟩
    · rw [pairAssertions, model_kind, serial_kind]
    · rw [pairAssertions, model_kind, serial_kind]

/-- The enrollment that the headers of a model and of a serial assertion ask for. -/
structure Asks (model serial : Assertion) (request : EnrollmentRequest) : Prop where
  agreed_brand : model.headers.get? brandHeader = some (.text request.brand) ∧
    serial.headers.get? brandHeader = some (.text request.brand)
  agreed_model : model.headers.get? modelHeader = some (.text request.model) ∧
    serial.headers.get? modelHeader = some (.text request.model)
  given_serial : serial.headers.get? serialHeader = some (.text request.serialNumber)
  given_key : serial.headers.get? deviceKeyHeader = some (.text request.deviceKey)
  given_store : (model.headers.get? storeHeader = none ∧ request.storeId = "") ∨
    model.headers.get? storeHeader = some (.text request.storeId)
  present : isBlank request.brand = false ∧ isBlank request.model = false ∧
    isBlank request.serialNumber = false ∧ isBlank request.deviceKey = false

namespace EnrollmentRequest

theorem ofAssertions_eq_ok_iff {model serial : Assertion} {request : EnrollmentRequest} :
    ofAssertions model serial = .ok request ↔ Asks model serial request := by
  simp only [ofAssertions, bind_eq_ok_iff, agreedText_eq_ok_iff,
    Assertion.requiredText_eq_ok_iff, Assertion.optionalText_eq_ok_iff]
  constructor
  · rintro ⟨brand, brands, modelName, models, serialNumber, serials, deviceKey, keys, store, stores,
      _, brand_there, _, model_there, _, serial_there, _, key_there, h⟩
    cases h
    refine ⟨brands, models, serials, keys, ?_, requireField_eq_ok_iff.1 brand_there,
      requireField_eq_ok_iff.1 model_there, requireField_eq_ok_iff.1 serial_there,
      requireField_eq_ok_iff.1 key_there⟩
    cases store with
    | none => exact .inl ⟨stores, rfl⟩
    | some storeId => exact .inr stores
  · rintro ⟨brands, models, serials, keys, stores, brand_there, model_there, serial_there,
      key_there⟩
    have store : ∃ found : Option String,
        model.headers.get? storeHeader = found.map HeaderValue.text ∧
          found.getD "" = request.storeId := by
      rcases stores with ⟨absent, empty⟩ | there
      · exact ⟨none, absent, empty.symm⟩
      · exact ⟨some request.storeId, there, rfl⟩
    obtain ⟨found, there, store_eq⟩ := store
    refine ⟨_, brands, _, models, _, serials, _, keys, found, there,
      (), requireField_eq_ok_iff.2 brand_there, (), requireField_eq_ok_iff.2 model_there,
      (), requireField_eq_ok_iff.2 serial_there, (), requireField_eq_ok_iff.2 key_there, ?_⟩
    rw [store_eq]
    rfl

theorem ofPair_eq_ok_iff {first second : Assertion} {request : EnrollmentRequest} :
    ofPair first second = .ok request ↔ ∃ model serial,
      ((first = model ∧ second = serial) ∨ (first = serial ∧ second = model)) ∧
        model.typeName = "model" ∧ serial.typeName = "serial" ∧ Asks model serial request := by
  simp only [ofPair, bind_eq_ok_iff]
  constructor
  · rintro ⟨⟨model, serial⟩, paired, asked⟩
    obtain ⟨order, model_type, serial_type⟩ := pairAssertions_eq_ok_iff.1 paired
    exact ⟨model, serial, order, model_type, serial_type, ofAssertions_eq_ok_iff.1 asked⟩
  · rintro ⟨model, serial, order, model_type, serial_type, asked⟩
    exact ⟨(model, serial), pairAssertions_eq_ok_iff.2 ⟨order, model_type, serial_type⟩,
      ofAssertions_eq_ok_iff.2 asked⟩

end EnrollmentRequest

end FleetIdentity
