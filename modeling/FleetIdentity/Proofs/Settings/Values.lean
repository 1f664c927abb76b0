import FleetIdentity.Settings.Override
import Mathlib.Data.Nat.Digits.Defs

/-!
# What the texts of settings stand for

A choice is given by its exact name and by nothing else. A port is given by decimal digits, with or
without a plus sign in front, whose number is 65535 at most; leading zeros do not matter.
-/

namespace FleetIdentity

/-! ### Choices -/

/-- Every value is a choice under its own name, and no other text is the name of a choice. -/
class LawfulNamed (α : Type) [Named α] : Prop where
  lookup_eq_some_iff (text : String) (a : α) :
    (Named.choices : List (String × α)).lookup text = some a ↔ text = Named.name a

/-- Of two choices with different names, a text stands for the one that it is the name of. -/
theorem lookup_two_eq_some_iff {α : Type} {first second : String} (names : first ≠ second)
    (a b : α) (text : String) (c : α) :
    [(first, a), (second, b)].lookup text = some c ↔
      (text = first ∧ c = a) ∨ (text = second ∧ c = b) := by
  by_cases is_first : text = first
  · subst is_first
    simp [names, eq_comm]
  by_cases is_second : text = second
  · subst is_second
    simp [List.lookup_cons, beq_false_of_ne is_first, is_first, eq_comm]
  · simp [List.lookup_cons, beq_false_of_ne is_first, beq_false_of_ne is_second, is_first,
      is_second]

instance : LawfulNamed StoreDriver where
  lookup_eq_some_iff text a := by
    refine (lookup_two_eq_some_iff (by decide) _ _ text a).trans ?_
    cases a <;> simp [Named.name]

instance : LawfulNamed IssuanceMode where
  lookup_eq_some_iff text a := by
    refine (lookup_two_eq_some_iff (by decide) _ _ text a).trans ?_
    cases a <;> simp [Named.name]

instance : LawfulNamed KeyAlgorithm where
  lookup_eq_some_iff text a := by
    refine (lookup_two_eq_some_iff (by decide) _ _ text a).trans ?_
    cases a <;> simp [Named.name]

instance : LawfulNamed LogFormat where
  lookup_eq_some_iff text a := by
    refine (lookup_two_eq_some_iff (by decide) _ _ text a).trans ?_
    cases a <;> simp [Named.name]

namespace Named

variable {α : Type} [Named α] [LawfulNamed α] {text : String} {e : SettingsError}

theorem parse_ok_iff {a : α} : parse α text = .ok a ↔ text = name a := by
  rw [← LawfulNamed.lookup_eq_some_iff, parse]
  cases (choices : List (String × α)).lookup text <;> simp

theorem parse_error_iff : parse α text = .error e ↔
    (∀ a : α, text ≠ name a) ∧
      e = .unknownChoice (setting α) ((choices : List (String × α)).map (·.1)) text := by
  have named (a : α) := LawfulNamed.lookup_eq_some_iff text a
  rw [parse]
  cases found : (choices : List (String × α)).lookup text with
  | none => simp [← named, found, eq_comm]
  | some a =>
    have known : text = name a := (named a).1 found
    simp only [reduceCtorEq, false_iff]
    exact fun refused => refused.1 a known

/-- The names of the choices are the names of the values. -/
theorem mem_choices_iff :
    text ∈ (choices : List (String × α)).map (·.1) ↔ ∃ a : α, text = name a := by
  have absent : (choices : List (String × α)).lookup text = none ↔
      text ∉ (choices : List (String × α)).map (·.1) := by
    rw [List.lookup_eq_none_iff]
    simp only [bne_iff_ne, ne_eq, List.mem_map, not_exists, not_and]
    exact forall₂_congr fun _ _ => not_congr eq_comm
  simp only [← LawfulNamed.lookup_eq_some_iff]
  rw [← Option.isSome_iff_exists, ← Option.ne_none_iff_isSome, Ne, absent, not_not]

end Named

/-! ### Ports -/

/-- The text is an optional plus sign and decimal digits of a number that a port can have. -/
def IsPort (text : String) (n : Nat) : Prop :=
  ∃ digits : List Char, digits ≠ [] ∧ (text.toList = digits ∨ text.toList = '+' :: digits) ∧
    (∀ c ∈ digits, c.isDigit = true) ∧
    Nat.ofDigits 10 (digits.reverse.map fun c => c.toNat - 48) = n ∧ n ≤ 65535

namespace Settings

theorem isDigit_iff {c : Char} : c.isDigit = true ↔ '0' ≤ c ∧ c ≤ '9' := by
  simp [Char.isDigit, Char.le_def]

theorem digitsValue_eq (digits : List Char) :
    digitsValue digits = Nat.ofDigits 10 (digits.reverse.map fun c => c.toNat - 48) := by
  rw [digitsValue, Nat.ofDigits_eq_foldr, List.foldr_map, List.foldr_reverse]
  simp only [Nat.cast_id, Nat.add_comm]

/-- The digits of a port are those of the text, with the sign taken off if there is one. -/
theorem portDigits_eq_iff {text digits : List Char} (plain : ∀ c ∈ digits, c.isDigit = true) :
    portDigits text = digits ↔ text = digits ∨ text = '+' :: digits := by
  have no_sign : ∀ rest, digits ≠ '+' :: rest := by
    rintro rest rfl
    exact absurd (plain '+' List.mem_cons_self) (by decide)
  unfold portDigits
  split
  · next rest =>
    constructor
    · rintro rfl
      exact .inr rfl
    · rintro (same | same)
      · exact absurd same.symm (no_sign rest)
      · exact (List.cons.inj same).2
  · next unsigned =>
    constructor
    · exact .inl
    · rintro (same | same)
      · exact same
      · exact absurd same (unsigned digits)

theorem port?_eq_some_iff {text : String} {port : UInt16} :
    port? text = some port ↔ IsPort text port.toNat := by
  rw [port?]
  simp only [digitsValue_eq]
  constructor
  · intro known
    split at known
    · next accepted =>
      obtain ⟨some_digit, all_digits, small⟩ := accepted
      have plain : ∀ c ∈ portDigits text.toList, c.isDigit = true := by
        intro c mem
        have bounds := List.all_eq_true.1 all_digits c mem
        rw [Bool.and_eq_true, decide_eq_true_eq, decide_eq_true_eq] at bounds
        exact isDigit_iff.2 bounds
      have value := congrArg UInt16.toNat (Option.some.inj known)
      rw [UInt16.toNat_ofNat', Nat.mod_eq_of_lt (by omega)] at value
      exact ⟨_, some_digit, (portDigits_eq_iff plain).1 rfl, plain, value, value ▸ small⟩
    · cases known
  · rintro ⟨digits, some_digit, spelled, plain, value, small⟩
    have all_digits : digits.all (fun c => '0' ≤ c && c ≤ '9') = true := by
      refine List.all_eq_true.2 fun c mem => ?_
      have bounds := isDigit_iff.1 (plain c mem)
      simp [bounds.1, bounds.2]
    rw [(portDigits_eq_iff plain).2 spelled, value, if_pos ⟨some_digit, all_digits, small⟩,
      UInt16.ofNat_toNat]

theorem port?_eq_none_iff {text : String} : port? text = none ↔ ∀ n, ¬ IsPort text n := by
  constructor
  · intro unknown n is_port
    have small : n ≤ 65535 := by
      obtain ⟨_, _, _, _, _, small⟩ := is_port
      exact small
    have same : (UInt16.ofNat n).toNat = n := by
      rw [UInt16.toNat_ofNat', Nat.mod_eq_of_lt (by omega)]
    rw [← same, ← port?_eq_some_iff, unknown] at is_port
    cases is_port
  · intro refused
    cases known : port? text with
    | none => rfl
    | some port => exact absurd (port?_eq_some_iff.1 known) (refused _)

end Settings

end FleetIdentity
