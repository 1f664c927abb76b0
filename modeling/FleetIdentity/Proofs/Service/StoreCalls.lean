import FleetIdentity.Proofs.Except
import FleetIdentity.Service.StoreCall

/-!
# Sequences of store calls

A sequence succeeds if all its steps do, one after the other, and fails with the store that the
steps before the failure left. A sequence whose only write comes last is atomic: when it fails, the
store is what it was.
-/

namespace FleetIdentity.StoreCall

variable {α β : Type} {s s' : Store} {e : IdentityError}

theorem runOn_bind_of_ok {call : StoreCall α} {f : α → StoreCall β} {a : α} {t : Store}
    (h : call.runOn s = (.ok a, t)) : (call >>= f).runOn s = (f a).runOn t :=
  run_bind_of_ok h

theorem runOn_bind_of_error {call : StoreCall α} {f : α → StoreCall β} {t : Store}
    (h : call.runOn s = (.error e, t)) : (call >>= f).runOn s = (.error e, t) :=
  run_bind_of_error h

theorem runOn_bind_eq_ok_iff {call : StoreCall α} {f : α → StoreCall β} {b : β} :
    (call >>= f).runOn s = (.ok b, s') ↔
      ∃ a t, call.runOn s = (.ok a, t) ∧ (f a).runOn t = (.ok b, s') := by
  constructor
  · intro h
    rcases first : call.runOn s with ⟨outcome, t⟩
    cases outcome with
    | error e =>
      rw [runOn_bind_of_error first] at h
      cases h
    | ok a =>
      rw [runOn_bind_of_ok first] at h
      exact ⟨a, t, rfl, h⟩
  · rintro ⟨a, t, first, second⟩
    rw [runOn_bind_of_ok first]
    exact second

theorem runOn_bind_eq_error_iff {call : StoreCall α} {f : α → StoreCall β} :
    (call >>= f).runOn s = (.error e, s') ↔
      call.runOn s = (.error e, s') ∨
        ∃ a t, call.runOn s = (.ok a, t) ∧ (f a).runOn t = (.error e, s') := by
  constructor
  · intro h
    rcases first : call.runOn s with ⟨outcome, t⟩
    cases outcome with
    | error e' =>
      rw [runOn_bind_of_error first] at h
      cases h
      exact .inl rfl
    | ok a =>
      rw [runOn_bind_of_ok first] at h
      exact .inr ⟨a, t, rfl, h⟩
  · rintro (first | ⟨a, t, first, second⟩)
    · exact runOn_bind_of_error first
    · rw [runOn_bind_of_ok first]
      exact second

@[simp] theorem runOn_pure (a : α) : (pure a : StoreCall α).runOn s = (.ok a, s) := rfl

@[simp] theorem runOn_read (answer : Store → Except IdentityError α) :
    (read answer).runOn s = (answer s, s) := rfl

@[simp] theorem runOn_ofExcept (outcome : Except IdentityError α) :
    (ofExcept outcome).runOn s = (outcome, s) := rfl

theorem runOn_ofExcept_eq_ok_iff {outcome : Except IdentityError α} {a : α} :
    (ofExcept outcome).runOn s = (.ok a, s') ↔ outcome = .ok a ∧ s' = s := by
  rw [runOn_ofExcept, Prod.mk.injEq, eq_comm (a := s)]

theorem runOn_read_eq_ok_iff {answer : Store → Except IdentityError α} {a : α} :
    (read answer).runOn s = (.ok a, s') ↔ answer s = .ok a ∧ s' = s := by
  rw [runOn_read, Prod.mk.injEq, eq_comm (a := s)]

theorem runOn_write_of_error {answer : Store → Except IdentityError (α × Store)}
    (h : answer s = .error e) : (write answer).runOn s = (.error e, s) := by
  rw [runOn, write, h]

theorem runOn_write_eq_ok_iff {answer : Store → Except IdentityError (α × Store)} {a : α} :
    (write answer).runOn s = (.ok a, s') ↔ answer s = .ok (a, s') := by
  rw [runOn, write]
  split
  · next b t eq => simp [eq]
  · next e eq => simp [eq]

/-- The call changes nothing, whether it succeeds or fails. -/
def Reading (call : StoreCall α) : Prop :=
  ∀ s, (call.runOn s).2 = s

/-- A call that fails changes nothing. -/
def Atomic (call : StoreCall α) : Prop :=
  ∀ s e s', call.runOn s = (.error e, s') → s' = s

/-- If the call fails on this store, it changes nothing. -/
def AtomicOn (call : StoreCall α) (s : Store) : Prop :=
  ∀ e s', call.runOn s = (.error e, s') → s' = s

theorem reading_pure (a : α) : Reading (pure a) := fun _ => rfl

theorem reading_throw (e : IdentityError) : Reading (throw e : StoreCall α) := fun _ => rfl

theorem reading_read (answer : Store → Except IdentityError α) : Reading (read answer) :=
  fun _ => rfl

theorem reading_ofExcept (outcome : Except IdentityError α) : Reading (ofExcept outcome) :=
  fun _ => rfl

theorem Reading.eq {call : StoreCall α} (h : call.Reading) {outcome : Except IdentityError α}
    (run : call.runOn s = (outcome, s')) : s' = s := by
  have same := h s
  rw [run] at same
  exact same

theorem Reading.bind {call : StoreCall α} {f : α → StoreCall β} (h : call.Reading)
    (hf : ∀ a, (f a).Reading) : (call >>= f).Reading := by
  intro s
  cases run : (call >>= f).runOn s with
  | mk outcome s' =>
    cases outcome with
    | ok b =>
      obtain ⟨a, t, first, second⟩ := runOn_bind_eq_ok_iff.1 run
      exact ((hf a).eq second).trans (h.eq first)
    | error e =>
      rcases runOn_bind_eq_error_iff.1 run with first | ⟨a, t, first, second⟩
      · exact h.eq first
      · exact ((hf a).eq second).trans (h.eq first)

theorem Reading.atomic {call : StoreCall α} (h : call.Reading) : call.Atomic :=
  fun _ _ _ run => h.eq run

theorem atomic_write (answer : Store → Except IdentityError (α × Store)) :
    Atomic (write answer) := by
  intro s e s' run
  rw [runOn, write] at run
  split at run
  · cases run
  · cases run
    rfl

/-- After steps that only read, a sequence is atomic if the rest of it is. -/
theorem Reading.bind_atomic {call : StoreCall α} {f : α → StoreCall β} (h : call.Reading)
    (hf : ∀ a, (f a).Atomic) : (call >>= f).Atomic := by
  intro s e s' run
  rcases runOn_bind_eq_error_iff.1 run with first | ⟨a, t, first, second⟩
  · exact h.eq first
  · exact (hf a t e s' second).trans (h.eq first)

/-- Whether it succeeds or fails, the call keeps a property of the store. -/
def Preserves (P : Store → Prop) (call : StoreCall α) : Prop :=
  ∀ s, P s → P (call.runOn s).2

variable {P : Store → Prop}

theorem Reading.preserves {call : StoreCall α} (h : call.Reading) : call.Preserves P := by
  intro s hs
  rw [h s]
  exact hs

theorem preserves_write {answer : Store → Except IdentityError (α × Store)}
    (h : ∀ s a s', P s → answer s = .ok (a, s') → P s') : (write answer).Preserves P := by
  intro s hs
  rcases run : (write answer).runOn s with ⟨outcome, s'⟩
  cases outcome with
  | error e =>
    cases atomic_write answer s e s' run
    exact hs
  | ok a => exact h s a s' hs (runOn_write_eq_ok_iff.1 run)

/-- The later steps may use that the first one succeeded on a store with the property. -/
theorem Preserves.bind {call : StoreCall α} {f : α → StoreCall β} (h : call.Preserves P)
    (hf : ∀ s a t, P s → call.runOn s = (.ok a, t) → (f a).Preserves P) :
    (call >>= f).Preserves P := by
  intro s hs
  have ht := h s hs
  rcases first : call.runOn s with ⟨outcome, t⟩
  rw [first] at ht
  cases outcome with
  | error e =>
    rw [runOn_bind_of_error first]
    exact ht
  | ok a =>
    rw [runOn_bind_of_ok first]
    exact hf s a t hs first t ht

theorem Reading.bind_preserves {call : StoreCall α} {f : α → StoreCall β} (h : call.Reading)
    (hf : ∀ a, (f a).Preserves P) : (call >>= f).Preserves P :=
  h.preserves.bind fun _ a _ _ _ => hf a

end FleetIdentity.StoreCall
