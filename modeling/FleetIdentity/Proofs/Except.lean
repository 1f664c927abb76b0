/-!
# Outcomes one step at a time

What it says of a computation that a later step was reached, or that it failed; and how a
computation with a state goes on after its first step.
-/

namespace FleetIdentity

variable {ε ε' α β : Type}

theorem bind_eq_ok_iff {x : Except ε α} {f : α → Except ε β} {b : β} :
    (x >>= f) = .ok b ↔ ∃ a, x = .ok a ∧ f a = .ok b := by
  cases x with
  | error e =>
    constructor
    · intro h
      cases h
    · rintro ⟨a, h, _⟩
      cases h
  | ok a =>
    constructor
    · intro h
      exact ⟨a, rfl, h⟩
    · rintro ⟨_, h, hf⟩
      cases h
      exact hf

theorem bind_eq_error_iff {x : Except ε α} {f : α → Except ε β} {e : ε} :
    (x >>= f) = .error e ↔ x = .error e ∨ ∃ a, x = .ok a ∧ f a = .error e := by
  cases x with
  | error e' =>
    constructor
    · intro h
      cases h
      exact .inl rfl
    · rintro (h | ⟨a, h, _⟩)
      · cases h
        rfl
      · cases h
  | ok a =>
    constructor
    · intro h
      exact .inr ⟨a, rfl, h⟩
    · rintro (h | ⟨_, h, hf⟩)
      · cases h
      · cases h
        exact hf

theorem mapError_eq_ok_iff {x : Except ε α} {f : ε → ε'} {a : α} :
    x.mapError f = .ok a ↔ x = .ok a := by
  cases x with
  | error e => exact ⟨fun h => (by cases h), fun h => (by cases h)⟩
  | ok b => exact ⟨fun h => (by cases h; rfl), fun h => (by cases h; rfl)⟩

theorem mapError_eq_error_iff {x : Except ε α} {f : ε → ε'} {e : ε'} :
    x.mapError f = .error e ↔ ∃ fault, x = .error fault ∧ f fault = e := by
  cases x with
  | error fault =>
    constructor
    · intro h
      exact ⟨fault, rfl, Except.error.inj h⟩
    · rintro ⟨_, h, rfl⟩
      cases h
      rfl
  | ok b => exact ⟨nofun, nofun⟩

/-- Outcomes that are the same in one view are the same failure, or successes that look alike. -/
theorem map_eq_map_cases {view : α → β} {x y : Except ε α}
    (same : x.map view = y.map view) :
    (∃ e, x = .error e ∧ y = .error e) ∨ ∃ a b, x = .ok a ∧ y = .ok b ∧ view a = view b := by
  cases x with
  | error e =>
    cases y with
    | error f => exact .inl ⟨e, rfl, congrArg Except.error (Except.error.inj same).symm⟩
    | ok b => cases same
  | ok a =>
    cases y with
    | error f => cases same
    | ok b => exact .inr ⟨a, b, rfl, rfl, Except.ok.inj same⟩

/-! ### With a state that a failure keeps -/

variable {σ : Type} {s t : σ} {steps : ExceptT ε (StateM σ) α} {f : α → ExceptT ε (StateM σ) β}

theorem run_bind_of_ok {a : α} (h : steps s = (.ok a, t)) : (steps >>= f) s = f a t := by
  show ExceptT.bindCont f (steps s).1 (steps s).2 = _
  rw [h]
  rfl

theorem run_bind_of_error {e : ε} (h : steps s = (.error e, t)) :
    (steps >>= f) s = (.error e, t) := by
  show ExceptT.bindCont f (steps s).1 (steps s).2 = _
  rw [h]
  rfl

end FleetIdentity
