/-!
Texts in pieces and as lines: cutting at each newline, joining with one, and cutting once at a blank
line.
-/

namespace FleetIdentity.Lines

/-- The pieces between the separators, at least one. -/
def cut (separator : Char) : List Char → List (List Char)
  | [] => [[]]
  | c :: rest =>
    if c = separator then [] :: cut separator rest
    else match cut separator rest with
      | [] => [[c]]
      | piece :: pieces => (c :: piece) :: pieces

/-- The lines between the newlines, at least one. -/
def split (text : List Char) : List (List Char) :=
  cut '\n' text

/-- The lines with a newline between each two. -/
def join : List (List Char) → List Char
  | [] => []
  | [line] => line
  | line :: lines => line ++ '\n' :: join lines

/-- The text before the first blank line and the text after it. -/
def splitBlank? : List Char → Option (List Char × List Char)
  | '\n' :: '\n' :: rest => some ([], rest)
  | c :: rest => (splitBlank? rest).map fun (before, after) => (c :: before, after)
  | [] => none

theorem length_of_splitBlank? {text before after : List Char}
    (h : splitBlank? text = some (before, after)) : after.length + 2 ≤ text.length := by
  fun_induction splitBlank? text generalizing before after with
  | case1 rest =>
    obtain ⟨-, rfl⟩ := Prod.mk.inj (Option.some.inj h)
    simp
  | case2 c rest _ ih =>
    obtain ⟨⟨b, a⟩, found, eq⟩ := Option.map_eq_some_iff.1 h
    obtain ⟨-, rfl⟩ := Prod.mk.inj eq
    have := ih found
    simp only [List.length_cons]
    omega
  | case3 => simp at h

/-- The text without the newlines that it starts with. -/
def dropNewlines (text : List Char) : List Char :=
  text.dropWhile (· == '\n')

theorem length_dropNewlines_le (text : List Char) :
    (dropNewlines text).length ≤ text.length := by
  unfold dropNewlines
  exact (List.dropWhile_suffix _).length_le

end FleetIdentity.Lines
