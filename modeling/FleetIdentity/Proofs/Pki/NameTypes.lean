import FleetIdentity.Pki.Name
import Mathlib.Data.List.Basic

/-!
# How attribute types are called

A type is called by its short name or by the arcs of its identifier. Two identifiers may have the
same arcs, since an arc may start with octets that add nothing and the last one may be left without
end; identifiers without either are told apart by their texts, and every identifier has the arcs of
one such. No text of a type holds one of the characters that stand around types in the text of a
name.
-/

namespace FleetIdentity

namespace Oid

/-- Every arc takes as few octets as it can, and the last one ends; `started` within an arc. -/
def isMinimalFrom : (started : Bool) → Octets → Bool
  | started, [] => !started
  | started, x :: rest => (started || x != 0x80) && isMinimalFrom (decide (128 ≤ x.toNat)) rest

/-- All arcs after the first two are minimal. -/
def isMinimal : Oid → Bool
  | [] => true
  | _ :: rest => isMinimalFrom false rest

/-! ### Arcs and their octets -/

/-- The digits of a number in base 128, each marked as one that others follow. -/
def leadingOctets (n : Nat) : Octets :=
  if n = 0 then [] else leadingOctets (n / 128) ++ [UInt8.ofNat (n % 128 + 128)]

theorem leadingOctets_zero : leadingOctets 0 = [] := by
  rw [leadingOctets]
  rfl

/-- The octets of an arc. -/
def writeArc (n : Nat) : Octets :=
  leadingOctets (n / 128) ++ [UInt8.ofNat (n % 128)]

/-- Minimal octets are what is written of their arcs. Within an arc, `n` is what was read of it, and
the octets read are its digits. -/
theorem flatMap_writeArc_arcs {started : Bool} {n : Nat} {octets : Octets}
    (minimal : isMinimalFrom started octets = true) (open_iff : started = true ↔ 0 < n) :
    (arcs n started octets).flatMap writeArc = leadingOctets n ++ octets := by
  induction octets generalizing started n with
  | nil =>
    obtain rfl : started = false := by simpa [isMinimalFrom] using minimal
    obtain rfl : n = 0 := by simpa using open_iff
    rw [leadingOctets_zero]
    rfl
  | cons x rest ih =>
    rw [isMinimalFrom, Bool.and_eq_true] at minimal
    obtain ⟨first, later⟩ := minimal
    have bound := x.toNat_lt
    have digit : (n * 128 + x.toNat % 128) / 128 = n := by omega
    have low : (n * 128 + x.toNat % 128) % 128 = x.toNat % 128 := by omega
    rw [arcs]
    by_cases last : x.toNat < 128
    · have ends : decide (128 ≤ x.toNat) = false := by simpa using last
      have same : UInt8.ofNat (x.toNat % 128) = x := by
        rw [Nat.mod_eq_of_lt last, UInt8.ofNat_toNat]
      rw [ends] at later
      simp only [if_pos last]
      rw [List.flatMap_cons, ih later (by simp), writeArc, digit, low, same, leadingOctets_zero]
      simp
    · have goes_on : decide (128 ≤ x.toNat) = true := by simpa using last
      have same : UInt8.ofNat (x.toNat % 128 + 128) = x := by
        rw [show x.toNat % 128 + 128 = x.toNat by omega, UInt8.ofNat_toNat]
      have positive : 0 < n * 128 + x.toNat % 128 := by
        cases started with
        | true =>
          have := open_iff.1 rfl
          omega
        | false =>
          have other : x ≠ 0x80 := by simpa using first
          have value : x.toNat ≠ 128 := fun same => other (UInt8.toNat_inj.1 same)
          omega
      rw [goes_on] at later
      simp only [if_neg last]
      rw [ih later (by simpa using positive), leadingOctets, if_neg (by omega), digit, low, same,
        List.append_assoc]
      rfl

/-- The octets of all arcs: the first two go into one octet, a single one is zero. -/
def ofArcs : List Nat → Oid
  | [] => []
  | [_] => [0]
  | a :: b :: rest => UInt8.ofNat (a * 40 + b) :: rest.flatMap writeArc

theorem ofArcs_toArcs {o : Oid} (minimal : isMinimal o = true) : ofArcs (toArcs o) = o := by
  unfold toArcs
  split
  · rfl
  · rfl
  · next x rest _ =>
    have first : x.toNat / 40 * 40 + x.toNat % 40 = x.toNat := by omega
    have later : (arcs 0 false rest).flatMap writeArc = leadingOctets 0 ++ rest :=
      flatMap_writeArc_arcs minimal (by simp)
    rw [ofArcs, first, later, leadingOctets_zero, UInt8.ofNat_toNat, List.nil_append]

/-! ### The fewest octets -/

/-- Without the octets that add nothing the arcs are the same. -/
theorem arcs_shortestFrom {started : Bool} {n : Nat} (octets : Octets)
    (fresh : started = false → n = 0) :
    arcs n started (shortestFrom started octets) = arcs n started octets := by
  fun_induction shortestFrom started octets generalizing n with
  | case1 => rfl
  | case2 started x =>
    have low : (UInt8.ofNat (x.toNat % 128)).toNat = x.toNat % 128 := by
      rw [UInt8.toNat_ofNat']
      omega
    simp [arcs, low, Nat.mod_lt]
  | case3 started x y rest padding ih =>
    simp only [Bool.and_eq_true, Bool.not_eq_true', beq_iff_eq] at padding
    obtain ⟨rfl, rfl⟩ := padding
    obtain rfl := fresh rfl
    exact ih fun _ => rfl
  | case4 started x y rest _ ih =>
    rw [arcs, arcs]
    by_cases last : x.toNat < 128
    · have ends : decide (128 ≤ x.toNat) = false := by simpa using last
      rw [ends] at ih ⊢
      simp only [if_pos last]
      rw [ih fun _ => rfl]
    · have goes_on : decide (128 ≤ x.toNat) = true := by simpa using last
      rw [goes_on] at ih ⊢
      simp only [if_neg last]
      exact ih fun ended => by cases ended

theorem shortestFrom_ne_nil {started : Bool} {octets : Octets} (more : octets ≠ []) :
    shortestFrom started octets ≠ [] := by
  fun_induction shortestFrom started octets with
  | case1 => exact more
  | case2 => exact List.cons_ne_nil _ _
  | case3 _ _ _ _ _ ih => exact ih (List.cons_ne_nil _ _)
  | case4 => exact List.cons_ne_nil _ _

theorem toArcs_cons_cons (x y : UInt8) (rest : Octets) :
    toArcs (x :: y :: rest) = x.toNat / 40 :: x.toNat % 40 :: arcs 0 false (y :: rest) := by
  unfold toArcs
  split
  · next none => cases none
  · next alone => cases alone
  · next whole =>
    cases whole
    rfl

/-- The fewest octets have the same arcs. -/
theorem toArcs_shortest (o : Oid) : toArcs (shortest o) = toArcs o := by
  cases o with
  | nil => rfl
  | cons x rest =>
    cases rest with
    | nil => rfl
    | cons y rest =>
      have some_octet : shortestFrom false (y :: rest) ≠ [] :=
        shortestFrom_ne_nil (List.cons_ne_nil y rest)
      obtain ⟨z, more, eq⟩ := List.exists_cons_of_ne_nil some_octet
      rw [shortest, eq, toArcs_cons_cons, toArcs_cons_cons, ← eq,
        arcs_shortestFrom (y :: rest) fun _ => rfl]

theorem shortestFrom_of_isMinimalFrom {started : Bool} {octets : Octets}
    (minimal : isMinimalFrom started octets = true) : shortestFrom started octets = octets := by
  fun_induction shortestFrom started octets with
  | case1 => rfl
  | case2 started x =>
    simp only [isMinimalFrom, Bool.and_eq_true, Bool.not_eq_true', decide_eq_false_iff_not,
      Nat.not_le] at minimal
    rw [Nat.mod_eq_of_lt minimal.2, UInt8.ofNat_toNat]
  | case3 started x y rest padding ih =>
    simp only [Bool.and_eq_true, Bool.not_eq_true', beq_iff_eq] at padding
    obtain ⟨rfl, rfl⟩ := padding
    cases minimal
  | case4 started x y rest _ ih =>
    rw [isMinimalFrom, Bool.and_eq_true] at minimal
    rw [ih minimal.2]

/-- A minimal identifier takes the fewest octets already. -/
theorem shortest_of_isMinimal {o : Oid} (minimal : isMinimal o = true) : shortest o = o := by
  cases o with
  | nil => rfl
  | cons x rest => exact congrArg (x :: ·) (shortestFrom_of_isMinimalFrom minimal)

/-! ### Texts -/

/-- The characters of an identifier with their points. -/
theorem toList_text (o : Oid) :
    o.text.toList = ['.'].intercalate (o.toArcs.map fun n => Nat.toDigits 10 n) := by
  rw [text, String.toList_intercalate, List.map_map]
  refine congrArg (List.intercalate ['.']) (List.map_congr_left fun n _ => ?_)
  rw [Function.comp_apply, Nat.toString_eq_repr, Nat.toList_repr]

theorem not_mem_toDigits {c : Char} (other : c.isDigit = false) (n : Nat) :
    c ∉ Nat.toDigits 10 n := by
  intro mem
  rw [Nat.isDigit_of_mem_toDigits (by decide) (by decide) mem] at other
  cases other

theorem toDigits_injective : Function.Injective (Nat.toDigits 10) := by
  intro m n same
  rw [← Nat.ofDigitChars_toDigits (b := 10) (n := m) (by decide) (by decide), same,
    Nat.ofDigitChars_toDigits (by decide) (by decide)]

/-- The parts of an identifier between its points. -/
theorem splitOn_text {o : Oid} (some_arc : o.toArcs ≠ []) :
    o.text.toList.splitOn '.' = o.toArcs.map fun n => Nat.toDigits 10 n := by
  rw [toList_text, List.splitOn_intercalate]
  · intro digits mem
    obtain ⟨n, _, rfl⟩ := List.mem_map.1 mem
    exact not_mem_toDigits (by decide) n
  · simpa using some_arc

theorem toArcs_eq_nil_iff {o : Oid} : o.toArcs = [] ↔ o.text = "" := by
  constructor
  · intro none
    rw [text, none]
    rfl
  · intro empty
    by_contra some_arc
    have parts := splitOn_text some_arc
    rw [empty] at parts
    -- The one part of the empty text is empty, and no arc is.
    have mem : [] ∈ o.toArcs.map fun n => Nat.toDigits 10 n := by
      rw [← parts]
      decide
    obtain ⟨n, _, no_digit⟩ := List.mem_map.1 mem
    exact Nat.toDigits_ne_nil no_digit

theorem text_injective {o o' : Oid} (minimal : isMinimal o = true)
    (minimal' : isMinimal o' = true) (same : o.text = o'.text) : o = o' := by
  suffices same_arcs : o.toArcs = o'.toArcs by
    rw [← ofArcs_toArcs minimal, same_arcs, ofArcs_toArcs minimal']
  by_cases none : o.toArcs = []
  · rw [none, eq_comm, toArcs_eq_nil_iff, ← same, ← toArcs_eq_nil_iff, none]
  · have none' : o'.toArcs ≠ [] := by
      rwa [Ne, toArcs_eq_nil_iff, ← same, ← toArcs_eq_nil_iff]
    have parts := congrArg (fun text => text.toList.splitOn '.') same
    simp only [splitOn_text none, splitOn_text none'] at parts
    exact List.map_injective_iff.2 toDigits_injective parts

theorem mem_text {o : Oid} {c : Char} (mem : c ∈ o.text.toList) : c = '.' ∨ c.isDigit = true := by
  rw [toList_text] at mem
  generalize o.toArcs = arcs at mem
  induction arcs with
  | nil =>
    rw [List.map_nil, List.intercalate_nil] at mem
    cases mem
  | cons n arcs ih =>
    have of_digits (h : c ∈ Nat.toDigits 10 n) : c = '.' ∨ c.isDigit = true :=
      .inr (Nat.isDigit_of_mem_toDigits (by decide) (by decide) h)
    cases arcs with
    | nil =>
      rw [List.map_singleton, List.intercalate_singleton] at mem
      exact of_digits mem
    | cons m arcs =>
      rw [List.map_cons, List.map_cons, List.intercalate_cons_cons, List.mem_append,
        List.mem_append, List.mem_singleton] at mem
      rcases mem with (digit | point) | later
      · exact of_digits digit
      · exact .inl point
      · exact ih later

/-- An arc may start with an octet that adds nothing. -/
theorem text_insert (x : UInt8) {rest : Octets} (more : rest ≠ []) :
    text (x :: 0x80 :: rest) = text (x :: rest) := by
  cases rest with
  | nil => exact absurd rfl more
  | cons y rest =>
    have same : arcs 0 false (0x80 :: y :: rest) = arcs 0 false (y :: rest) := rfl
    rw [text, text, toArcs_cons_cons, toArcs_cons_cons, same]

end Oid

namespace NameAttribute

/-! ### Names of types -/

/-- What a type is called in the text of a name. -/
def typeName (type : Oid) : String :=
  (shortNames.lookup type).getD s!"OID({type.text})"

theorem typeText_eq (a : NameAttribute) : a.typeText = typeName a.type := rfl

/-- A character that may stand in the name of a type. -/
def isTypeChar (c : Char) : Bool :=
  c != '=' && c != ',' && c != ' ' && c != '+'

theorem typeName_cases (type : Oid) :
    (∃ short, (type, short) ∈ shortNames ∧ typeName type = short) ∨
      shortNames.lookup type = none ∧ typeName type = "OID(" ++ type.text ++ ")" := by
  cases found : shortNames.lookup type with
  | some short =>
    obtain ⟨before, after, split, -⟩ := List.lookup_eq_some_iff.1 found
    exact .inl ⟨short, by simp [split], by rw [typeName, found]; rfl⟩
  | none => exact .inr ⟨rfl, by rw [typeName, found]; rfl⟩

theorem isTypeChar_of_mem_typeName {type : Oid} {c : Char} (mem : c ∈ (typeName type).toList) :
    isTypeChar c = true := by
  have short_names : ∀ p ∈ shortNames, p.2.toList.all isTypeChar = true := by decide
  have brackets : ("OID(".toList ++ ")".toList).all isTypeChar = true := by decide
  rcases typeName_cases type with ⟨short, listed, same⟩ | ⟨-, same⟩
  · rw [same] at mem
    exact List.all_eq_true.1 (short_names _ listed) c mem
  · rw [same, String.toList_append, String.toList_append, List.mem_append, List.mem_append] at mem
    rcases mem with (opening | text) | closing
    · exact List.all_eq_true.1 brackets c (List.mem_append_left _ opening)
    · rcases Oid.mem_text text with rfl | digit
      · decide
      · have other (d : Char) (no_digit : d.isDigit = false) : c ≠ d := by
          rintro rfl
          rw [no_digit] at digit
          cases digit
        simp [isTypeChar, other '=' rfl, other ',' rfl, other ' ' rfl, other '+' rfl]
    · exact List.all_eq_true.1 brackets c (List.mem_append_right _ closing)

/-- The types with a short name take as few octets as they can. -/
theorem isMinimal_of_listed {type : Oid} {short : String} (listed : (type, short) ∈ shortNames) :
    type.isMinimal = true := by
  have all : ∀ p ∈ shortNames, p.1.isMinimal = true := by decide
  exact all _ listed

/-- No short name looks like a type that has none. -/
theorem typeName_ne_of_listed {type other : Oid} {short : String}
    (listed : (type, short) ∈ shortNames) : short ≠ "OID(" ++ other.text ++ ")" := by
  have no_bracket : ∀ p ∈ shortNames, '(' ∉ p.2.toList := by decide
  have bracket : '(' ∈ ("OID(" ++ other.text ++ ")").toList := by simp
  rintro rfl
  exact no_bracket _ listed bracket

/-- A type written in the fewest octets is called the same, unless it only then is one that has a
short name. -/
theorem typeName_shortest_eq_iff {type : Oid} : typeName type.shortest = typeName type ↔
    (type.shortest ∈ shortNames.map Prod.fst → type.shortest = type) := by
  rcases typeName_cases type with ⟨short, listed, -⟩ | ⟨-, named⟩
  · have same := Oid.shortest_of_isMinimal (isMinimal_of_listed listed)
    exact iff_of_true (congrArg typeName same) fun _ => same
  rcases typeName_cases type.shortest with ⟨short, listed, named'⟩ | ⟨unlisted, named'⟩
  · have differ : typeName type.shortest ≠ typeName type := by
      rw [named, named']
      exact typeName_ne_of_listed listed
    exact iff_of_false differ fun kept =>
      differ (congrArg typeName (kept (List.mem_map.2 ⟨_, listed, rfl⟩)))
  · have same_text : type.shortest.text = type.text := by
      rw [Oid.text, Oid.text, Oid.toArcs_shortest]
    rw [named, named', same_text]
    refine iff_of_true rfl fun known => ?_
    obtain ⟨p, listed, eq⟩ := List.mem_map.1 known
    have other := List.lookup_eq_none_iff.1 unlisted p listed
    rw [eq, bne_self_eq_false] at other
    cases other

/-- The name of a type ends where the sign behind it stands. -/
theorem typeName_of_append {type type' : Oid} {rest rest' : List Char}
    (same : (typeName type).toList ++ '=' :: rest = (typeName type').toList ++ '=' :: rest') :
    typeName type = typeName type' ∧ rest = rest' := by
  have no_sign (type : Oid) : ∀ c ∈ (typeName type).toList, (c != '=') = true := by
    intro c mem
    have plain := isTypeChar_of_mem_typeName mem
    simp only [isTypeChar, Bool.and_eq_true] at plain
    exact plain.1.1.1
  have names := congrArg (List.takeWhile (· != '=')) same
  have rests := congrArg (List.dropWhile (· != '=')) same
  rw [List.takeWhile_append_of_pos (no_sign type), List.takeWhile_append_of_pos (no_sign type'),
    List.takeWhile_cons_of_neg (by decide), List.takeWhile_cons_of_neg (by decide),
    List.append_nil, List.append_nil] at names
  rw [List.dropWhile_append_of_pos (no_sign type), List.dropWhile_append_of_pos (no_sign type'),
    List.dropWhile_cons_of_neg (by decide), List.dropWhile_cons_of_neg (by decide)] at rests
  exact ⟨String.toList_inj.1 names, (List.cons.inj rests).2⟩

/-- Types with minimal identifiers are told apart by what they are called. -/
theorem typeName_injective {type type' : Oid} (minimal : type.isMinimal = true)
    (minimal' : type'.isMinimal = true) (same : typeName type = typeName type') :
    type = type' := by
  have distinct : ∀ p ∈ shortNames, ∀ q ∈ shortNames, p.2 = q.2 → p.1 = q.1 := by
    decide +kernel
  rcases typeName_cases type with ⟨short, listed, is_short⟩ | ⟨-, is_long⟩ <;>
    rcases typeName_cases type' with ⟨short', listed', is_short'⟩ | ⟨-, is_long'⟩
  · exact distinct _ listed _ listed' (is_short.symm.trans (same.trans is_short'))
  · exact absurd (is_short.symm.trans (same.trans is_long')) (typeName_ne_of_listed listed)
  · exact absurd (is_short'.symm.trans (same.symm.trans is_long)) (typeName_ne_of_listed listed')
  · rw [is_long, is_long'] at same
    have inner : type.text = type'.text := by simpa using same
    exact Oid.text_injective minimal minimal' inner

/-- For every identifier that is not minimal there is another with the same name. -/
theorem exists_typeName_eq {type : Oid} (long : type.isMinimal = false) :
    ∃ other, other ≠ type ∧ typeName other = typeName type := by
  rcases typeName_cases type with ⟨short, listed, -⟩ | ⟨-, named⟩
  · rw [isMinimal_of_listed listed] at long
    cases long
  cases type with
  | nil => cases long
  | cons x rest =>
    have more : rest ≠ [] := by
      rintro rfl
      cases long
    have other_long : Oid.isMinimal (x :: 0x80 :: rest) = false := by
      simp [Oid.isMinimal, Oid.isMinimalFrom]
    refine ⟨x :: 0x80 :: rest, fun same => ?_, ?_⟩
    · have lengths := congrArg List.length same
      simp at lengths
    · rcases typeName_cases (x :: 0x80 :: rest) with ⟨short, listed, -⟩ | ⟨-, other_named⟩
      · rw [isMinimal_of_listed listed] at other_long
        cases other_long
      · rw [named, other_named, Oid.text_insert x more]

end NameAttribute

end FleetIdentity
