import FleetIdentity.Datum
import FleetIdentity.Datum.Number
import FleetIdentity.Encoding.Hex
import FleetIdentity.Text.Utf8

/-!
Reading JSON.

A reading goes through the text once. It gives what was read and the text after it, or no such
text where the text was malformed; then the last leaf of what was read is a cut. Octets that are
no characters and unpaired surrogates are faults only in a text that is wanted, so a string is
read into pieces first and the pieces are joined afterwards.
-/

namespace FleetIdentity.JsonReader

/-- A character, or an octet that belongs to none. -/
abbrev Symbol := Option Char

/-- What was read, and the text after it unless the text is malformed. -/
abbrev Reading (α : Type) := α × Option (List Symbol)

/-- A symbol between the values. -/
def isSpace (s : Symbol) : Bool :=
  s == some ' ' || s == some '\n' || s == some '\t' || s == some '\r'

/-- The text without the space in front. -/
def skipSpace (text : List Symbol) : List Symbol :=
  text.dropWhile isSpace

/-- The cut of a malformed text. -/
def broken : Reading Datum := (.cut, none)

/-- The value that a word stands for. -/
def word (word : String) (value : Datum) (text : List Symbol) : Reading Datum :=
  if (word.toList.map some).isPrefixOf text then (value, some (text.drop word.length)) else broken

/-- A part of a string: a character, a code unit of sixteen bits, or an octet of no character. -/
inductive Piece where
  | char (c : Char)
  | unit (n : Nat)
  | stray

/-- The character that follows a backslash, for those that stand for one. -/
def escaped? : Char → Option Char
  | '"' => some '"'
  | '\\' => some '\\'
  | '/' => some '/'
  | 'b' => some '\x08'
  | 'f' => some '\x0c'
  | 'n' => some '\n'
  | 'r' => some '\r'
  | 't' => some '\t'
  | _ => none

/-- The code unit of four hexadecimal digits. -/
def codeUnit? (digits : List Symbol) : Option Nat :=
  digits.foldlM (fun n s => do return 16 * n + (← Hex.value? (← s))) 0

/-- The parts of a string up to its closing quote, and the text after that. -/
def pieces? : List Symbol → Option (List Piece × List Symbol)
  | [] => none
  | none :: rest => (pieces? rest).map fun (more, rest) => (.stray :: more, rest)
  | some c :: rest =>
    if c = '"' then some ([], rest)
    else if c = '\\' then
      match rest with
      | some 'u' :: s₁ :: s₂ :: s₃ :: s₄ :: rest => do
        let n ← codeUnit? [s₁, s₂, s₃, s₄]
        let (more, rest) ← pieces? rest
        return (.unit n :: more, rest)
      | some e :: rest => do
        let c ← escaped? e
        let (more, rest) ← pieces? rest
        return (.char c :: more, rest)
      | _ => none
    else if c < ' ' then none
    else (pieces? rest).map fun (more, rest) => (.char c :: more, rest)

/-- The text of the pieces; two surrogates side by side are one character. -/
def join? : List Piece → Option (List Char)
  | [] => some []
  | .stray :: _ => none
  | .char c :: rest => (join? rest).map (c :: ·)
  | .unit n :: rest =>
    if 0xD800 ≤ n ∧ n < 0xDC00 then
      match rest with
      | .unit m :: rest =>
        if 0xDC00 ≤ m ∧ m < 0xE000 then
          (join? rest).map (Char.ofNat (0x10000 + (n - 0xD800) * 0x400 + (m - 0xDC00)) :: ·)
        else none
      | _ => none
    else if 0xDC00 ≤ n ∧ n < 0xE000 then none
    else (join? rest).map (Char.ofNat n :: ·)

/-- The string of the pieces. -/
def text? (pieces : List Piece) : Option String :=
  (join? pieces).map String.ofList

/-- The value of a decimal digit. -/
def digit? : Symbol → Option Nat
  | some c => if '0' ≤ c ∧ c ≤ '9' then some (c.toNat - 48) else none
  | none => none

/-- The digits at the front of a text, and the text after them. -/
def digits : List Symbol → List Nat × List Symbol
  | [] => ([], [])
  | s :: rest =>
    match digit? s with
    | some d => (d :: (digits rest).1, (digits rest).2)
    | none => ([], s :: rest)

/-- A number without fraction and exponent: an integer where 64 bits hold it. -/
def whole (negative : Bool) (n : Nat) : Datum :=
  if negative then
    if 0 < n ∧ n ≤ 2 ^ 63 then .integer (-n) else .real (Number.isDouble n 0)
  else if n < 2 ^ 64 then .integer n
  else .real (Number.isDouble n 0)

/-- The digits after a point, if there is one. -/
def fraction? : List Symbol → Option (List Nat × List Symbol)
  | some '.' :: rest =>
    match digits rest with
    | ([], _) => none
    | found => some found
  | text => some ([], text)

/-- The text after the sign of an exponent, and whether the sign is minus. -/
def sign : List Symbol → Bool × List Symbol
  | some '-' :: rest => (true, rest)
  | some '+' :: rest => (false, rest)
  | text => (false, text)

/-- The exponent after a letter, if there is one. -/
def exponent? : List Symbol → Option (Option Int × List Symbol)
  | some 'e' :: rest | some 'E' :: rest =>
    let (negative, rest) := sign rest
    match digits rest with
    | ([], _) => none
    | (ds, rest) =>
      let size : Int := Number.ofDigits 10 ds
      some (some (if negative then -size else size), rest)
  | text => some (none, text)

/-- The number at the front of a text. -/
def number (text : List Symbol) : Reading Datum :=
  let (negative, text) := match text with
    | some '-' :: rest => (true, rest)
    | _ => (false, text)
  match digits text with
  | ([], _) | (0 :: _ :: _, _) => broken
  | (ds, rest) =>
    match fraction? rest with
    | none => broken
    | some (fraction, rest) =>
      match exponent? rest with
      | none => broken
      | some (exponent, rest) =>
        if fraction.isEmpty && exponent.isNone then
          (whole negative (Number.ofDigits 10 ds), some rest)
        else
          let scale := exponent.getD 0 - fraction.length
          (.real (Number.isDouble (Number.ofDigits 10 (ds ++ fraction)) scale), some rest)

mutual

/-- The value at the front of a text. -/
def value : (fuel : Nat) → List Symbol → Reading Datum
  | 0, _ => broken
  | fuel + 1, text =>
    match skipSpace text with
    | some '"' :: rest =>
      match pieces? rest with
      | some (pieces, rest) => (.text (text? pieces), some rest)
      | none => broken
    | some '[' :: rest =>
      match skipSpace rest with
      | some ']' :: rest => (.list [], some rest)
      | rest =>
        let (items, rest) := items fuel rest
        (.list items, rest)
    | some '{' :: rest =>
      match skipSpace rest with
      | some '}' :: rest => (.table [], some rest)
      | rest =>
        let (entries, rest) := entries fuel rest
        (.table entries, rest)
    | some 'n' :: rest => word "ull" .null rest
    | some 't' :: rest => word "rue" (.bool true) rest
    | some 'f' :: rest => word "alse" (.bool false) rest
    | rest => number rest

/-- The items of a list that has at least one. -/
def items : (fuel : Nat) → List Symbol → Reading (List Datum)
  | 0, _ => ([.cut], none)
  | fuel + 1, text =>
    match value fuel text with
    | (item, none) => ([item], none)
    | (item, some rest) =>
      match skipSpace rest with
      | some ',' :: rest =>
        let (more, rest) := items fuel rest
        (item :: more, rest)
      | some ']' :: rest => ([item], some rest)
      | _ => ([item, .cut], none)

/-- The entries of a table that has at least one. -/
def entries : (fuel : Nat) → List Symbol → Reading (List (Option String × Datum))
  | 0, _ => ([(none, .cut)], none)
  | fuel + 1, text =>
    match skipSpace text with
    | some '"' :: rest =>
      match pieces? rest with
      | none => ([(none, .cut)], none)
      | some (name, rest) =>
        match skipSpace rest with
        | some ':' :: rest =>
          match value fuel rest with
          | (item, none) => ([(text? name, item)], none)
          | (item, some rest) =>
            match skipSpace rest with
            | some ',' :: rest =>
              let (more, rest) := entries fuel rest
              ((text? name, item) :: more, rest)
            | some '}' :: rest => ([(text? name, item)], some rest)
            | _ => ([(text? name, item), (none, .cut)], none)
        | _ => ([(text? name, .cut)], none)
    | _ => ([(none, .cut)], none)

end

/-- The value at the front of an octet string, and the text after it. -/
def read (octets : Octets) : Reading Datum :=
  value (2 * octets.length + 2) (Utf8.symbols octets)

/-- The value that a whole octet string is. -/
def readAll (octets : Octets) : Datum :=
  match read octets with
  | (d, some rest) => if (skipSpace rest).isEmpty then d else .cut
  | (d, none) => d

end FleetIdentity.JsonReader
