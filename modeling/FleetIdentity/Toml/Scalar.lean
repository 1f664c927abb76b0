import FleetIdentity.Datum
import FleetIdentity.Datum.Number
import FleetIdentity.Encoding.Hex

/-!
The scalars of TOML: strings of four kinds, numbers, moments.

Each reader takes the text from the front and gives what it read and the text after it, or nothing
when no such scalar is there. That a scalar ends where it should is left to what follows it.
-/

namespace FleetIdentity.Toml

/-- A space or a tab. -/
def isSpace (c : Char) : Bool :=
  c == ' ' || c == '\t'

/-- The text without spaces and tabs in front. -/
def skipSpace (text : List Char) : List Char :=
  text.dropWhile isSpace

/-- A character that may stand in a comment and between the quotes of a string. -/
def isPrintable (c : Char) : Bool :=
  c == '\t' || (' ' ≤ c && c != '\x7f')

/-- The character that follows a backslash, for those that stand for one. -/
def escaped? : Char → Option Char
  | 'b' => some '\x08'
  | 't' => some '\t'
  | 'n' => some '\n'
  | 'f' => some '\x0c'
  | 'r' => some '\r'
  | '"' => some '"'
  | '\\' => some '\\'
  | _ => none

/-- The character whose number stands in hexadecimal digits. -/
def scalar? (digits : List Char) : Option Char := do
  let n ← digits.foldlM (fun n c => do return 16 * n + (← Hex.value? c)) 0
  if n.isValidChar then some (Char.ofNat n) else none

/-- Puts a character in front of what was read. -/
def push (c : Char) (found : List Char × List Char) : List Char × List Char :=
  (c :: found.1, found.2)

/-- The content of a string up to its closing quote, with escapes. -/
def basic? : List Char → Option (List Char × List Char)
  | [] => none
  | c :: rest =>
    if c = '"' then some ([], rest)
    else if c = '\\' then
      match rest with
      | 'u' :: a :: b :: c :: d :: rest => do
        return push (← scalar? [a, b, c, d]) (← basic? rest)
      | 'U' :: a :: b :: c :: d :: e :: f :: g :: h :: rest => do
        return push (← scalar? [a, b, c, d, e, f, g, h]) (← basic? rest)
      | e :: rest => do
        return push (← escaped? e) (← basic? rest)
      | [] => none
    else if isPrintable c then (basic? rest).map (push c)
    else none

/-- The content of a string up to its closing apostrophe, without escapes. -/
def plain? : List Char → Option (List Char × List Char)
  | [] => none
  | c :: rest =>
    if c = '\'' then some ([], rest)
    else if isPrintable c then (plain? rest).map (push c)
    else none

/-- The end of a string of several lines after its three quotes: up to two more belong to the
content. -/
def closing (quote : Char) : List Char → List Char × List Char
  | a :: b :: rest =>
    if a ≠ quote then ([], a :: b :: rest)
    else if b = quote then ([a, b], rest)
    else ([a], b :: rest)
  | [a] => if a = quote then ([a], []) else ([], [a])
  | [] => ([], [])

/-- A backslash that ends its line. -/
def endsLine (rest : List Char) : Bool :=
  match skipSpace rest with
  | '\n' :: _ | '\r' :: '\n' :: _ => true
  | _ => false

/-- The content of a string of several lines, with escapes; within `joined`, space and newlines do
not count. -/
def basicLines? : (joined : Bool) → List Char → Option (List Char × List Char)
  | _, [] => none
  | joined, '\r' :: '\n' :: rest =>
    if joined then basicLines? true rest else (basicLines? false rest).map (push '\n')
  | _, '"' :: '"' :: '"' :: rest => some (closing '"' rest)
  | joined, c :: rest =>
    if c = '\n' then
      if joined then basicLines? true rest else (basicLines? false rest).map (push '\n')
    else if joined && isSpace c then basicLines? true rest
    else if c = '\\' then
      if endsLine rest then basicLines? true rest
      else match rest with
        | 'u' :: a :: b :: c :: d :: rest => do
          return push (← scalar? [a, b, c, d]) (← basicLines? false rest)
        | 'U' :: a :: b :: c :: d :: e :: f :: g :: h :: rest => do
          return push (← scalar? [a, b, c, d, e, f, g, h]) (← basicLines? false rest)
        | e :: rest => do
          return push (← escaped? e) (← basicLines? false rest)
        | [] => none
    else if isPrintable c then (basicLines? false rest).map (push c)
    else none

/-- The content of a string of several lines, without escapes. -/
def plainLines? : List Char → Option (List Char × List Char)
  | [] => none
  | '\r' :: '\n' :: rest => (plainLines? rest).map (push '\n')
  | '\'' :: '\'' :: '\'' :: rest => some (closing '\'' rest)
  | c :: rest =>
    if c = '\n' || isPrintable c then (plainLines? rest).map (push c) else none

/-- The text without one newline in front. -/
def dropNewline : List Char → List Char
  | '\n' :: rest => rest
  | '\r' :: '\n' :: rest => rest
  | text => text

/-- A string of any kind. -/
def string? : List Char → Option (List Char × List Char)
  | '"' :: '"' :: '"' :: rest => basicLines? false (dropNewline rest)
  | '"' :: rest => basic? rest
  | '\'' :: '\'' :: '\'' :: rest => plainLines? (dropNewline rest)
  | '\'' :: rest => plain? rest
  | _ => none

/-- A digit of a number in a base up to sixteen. -/
def digit? (base : Nat) (c : Char) : Option Nat :=
  (Hex.value? c).bind fun d => if d < base then some d else none

/-- More digits of a number, single underscores between them, and the text after them. -/
def moreDigits (base : Nat) : List Char → List Nat × List Char
  | '_' :: c :: rest =>
    match digit? base c with
    | some d => (d :: (moreDigits base rest).1, (moreDigits base rest).2)
    | none => ([], '_' :: c :: rest)
  | c :: rest =>
    match digit? base c with
    | some d => (d :: (moreDigits base rest).1, (moreDigits base rest).2)
    | none => ([], c :: rest)
  | [] => ([], [])

/-- One or more digits, and the text after them. -/
def digits? (base : Nat) : List Char → Option (List Nat × List Char)
  | [] => none
  | c :: rest =>
    (digit? base c).map fun d => (d :: (moreDigits base rest).1, (moreDigits base rest).2)

/-- Whether a minus stands in front, and the text after the sign. -/
def sign : List Char → Bool × List Char
  | '-' :: rest => (true, rest)
  | '+' :: rest => (false, rest)
  | text => (false, text)

/-- Decimal digits without needless zeros in front. -/
def decimal? (text : List Char) : Option (List Nat × List Char) :=
  match text with
  | '0' :: rest => some ([0], rest)
  | text => digits? 10 text

/-- An integer of 64 bits. -/
def bounded? (n : Int) (rest : List Char) : Option (Datum × List Char) :=
  if -2 ^ 63 ≤ n ∧ n < 2 ^ 63 then some (.integer n, rest) else none

/-- An integer without sign in a base. -/
def based? (base : Nat) (text : List Char) : Option (Datum × List Char) := do
  let (ds, rest) ← digits? base text
  bounded? (Number.ofDigits base ds) rest

/-- An integer. -/
def integer? : List Char → Option (Datum × List Char)
  | '0' :: 'x' :: rest => based? 16 rest
  | '0' :: 'o' :: rest => based? 8 rest
  | '0' :: 'b' :: rest => based? 2 rest
  | text => do
    let (negative, text) := sign text
    let (ds, rest) ← decimal? text
    let n : Int := Number.ofDigits 10 ds
    bounded? (if negative then -n else n) rest

/-- The digits after a point. -/
def fraction? : List Char → Option (List Nat × List Char)
  | '.' :: rest => digits? 10 rest
  | _ => none

/-- The exponent after a letter. -/
def exponent? : List Char → Option (Int × List Char)
  | 'e' :: rest | 'E' :: rest => do
    let (negative, rest) := sign rest
    let (ds, rest) ← digits? 10 rest
    let n : Int := Number.ofDigits 10 ds
    return (if negative then -n else n, rest)
  | _ => none

/-- A number that is none, or past all numbers. -/
def special? (text : List Char) : Option (Datum × List Char) :=
  match (sign text).2 with
  | 'i' :: 'n' :: 'f' :: rest | 'n' :: 'a' :: 'n' :: rest => some (.real true, rest)
  | _ => none

/-- A number with a fraction or an exponent; a positive one is within the range of a double. -/
def float? (text : List Char) : Option (Datum × List Char) := do
  let (negative, text) := sign text
  let (ds, rest) ← decimal? text
  let (fraction, rest) := (fraction? rest).getD ([], rest)
  let (exponent, rest) ← match exponent? rest with
    | some found => some found
    | none => if fraction.isEmpty then none else some (0, rest)
  let scale := exponent - fraction.length
  if negative || Number.isDouble (Number.ofDigits 10 (ds ++ fraction)) scale then
    some (.real true, rest)
  else none

/-- A number of two digits between two bounds. -/
def pair? (low high : Nat) : List Char → Option (Nat × List Char)
  | a :: b :: rest => do
    let n := 10 * (← digit? 10 a) + (← digit? 10 b)
    if low ≤ n ∧ n ≤ high then some (n, rest) else none
  | _ => none

/-- The text after a character that must stand in front. -/
def after? (c : Char) : List Char → Option (List Char)
  | d :: rest => if d = c then some rest else none
  | [] => none

/-- The number of days of a month. -/
def daysOf (year month : Nat) : Nat :=
  if month = 2 then
    if year % 4 = 0 ∧ (year % 100 ≠ 0 ∨ year % 400 = 0) then 29 else 28
  else if month = 4 ∨ month = 6 ∨ month = 9 ∨ month = 11 then 30
  else 31

/-- The text after a date. -/
def date? (text : List Char) : Option (List Char) := do
  let (century, rest) ← pair? 0 99 text
  let (year, rest) ← pair? 0 99 rest
  let (month, rest) ← pair? 1 12 (← after? '-' rest)
  let (_, rest) ← pair? 1 (daysOf (100 * century + year) month) (← after? '-' rest)
  return rest

/-- The text after a time of day, its fraction of a second included. -/
def time? (text : List Char) : Option (List Char) := do
  let (_, rest) ← pair? 0 23 text
  let (_, rest) ← pair? 0 59 (← after? ':' rest)
  let (_, rest) ← pair? 0 60 (← after? ':' rest)
  match rest with
  | '.' :: c :: more => if c.isDigit then return more.dropWhile Char.isDigit else return rest
  | _ => return rest

/-- The text after a distance from universal time. -/
def offset? : List Char → Option (List Char)
  | 'Z' :: rest | 'z' :: rest => some rest
  | '+' :: rest | '-' :: rest => do
    let (_, rest) ← pair? 0 23 rest
    let (_, rest) ← pair? 0 59 (← after? ':' rest)
    return rest
  | _ => none

/-- The text after a time of day and, if it is there, an offset. -/
def timeAndOffset? (text : List Char) : Option (List Char) := do
  let rest ← time? text
  return (offset? rest).getD rest

/-- A date, a time of day, or both with or without an offset. -/
def moment? (text : List Char) : Option (Datum × List Char) :=
  match date? text with
  | some rest =>
    let time := match rest with
      | 'T' :: more | 't' :: more | ' ' :: more => timeAndOffset? more
      | _ => none
    some (.moment, time.getD rest)
  | none => (time? text).map fun rest => (.moment, rest)

/-- A scalar that is no string. -/
def plainScalar? (text : List Char) : Option (Datum × List Char) :=
  match text with
  | 't' :: 'r' :: 'u' :: 'e' :: rest => some (.bool true, rest)
  | 'f' :: 'a' :: 'l' :: 's' :: 'e' :: rest => some (.bool false, rest)
  | _ => moment? text <|> special? text <|> float? text <|> integer? text

end FleetIdentity.Toml
