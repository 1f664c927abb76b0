/-!
White space as Unicode has it: the characters with the property `White_Space`.

A text is blank when it holds nothing else. The set is larger than the one that programming
languages call white space: it has the no-break spaces, the line separator and the next-line
control, but not the zero-width space.
-/

namespace FleetIdentity

/-- The ranges of code points with the property `White_Space`. -/
def blankRanges : List (Nat × Nat) :=
  [(0x09, 0x0D), (0x20, 0x20), (0x85, 0x85), (0xA0, 0xA0), (0x1680, 0x1680), (0x2000, 0x200A),
    (0x2028, 0x2029), (0x202F, 0x202F), (0x205F, 0x205F), (0x3000, 0x3000)]

/-- A character with the property `White_Space`. -/
def isBlankChar (c : Char) : Bool :=
  blankRanges.any fun (low, high) => low ≤ c.toNat && c.toNat ≤ high

/-- A text of white space only, the empty text included. -/
def isBlank (s : String) : Bool :=
  s.toList.all isBlankChar

end FleetIdentity
