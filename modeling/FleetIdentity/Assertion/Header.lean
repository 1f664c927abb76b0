import FleetIdentity.Dictionary
import FleetIdentity.Text.Lines

/-!
Header blocks: named values on lines.

A header is a line `name:value`, with one space before the value dropped. An empty value may be
followed by lines of its own: lines with two spaces in front make a text of several lines, lines
with two spaces and a dash make a list. The block is cut at each newline and nothing else; a name
occurs once.
-/

namespace FleetIdentity

/-- The value of a header. -/
inductive HeaderValue where
  | text (text : String)
  | list (items : List String)
  deriving DecidableEq, Repr

/-- The headers of an assertion by their names. -/
abbrev Headers := Dictionary HeaderValue

/-- What can be wrong with a header block. -/
inductive HeaderFault where
  | repeated (name : String)
  | unexpectedItem (item : String)
  | unexpectedContinuation (text : String)
  | malformedLine (line : String)
  | invalidName (name : String)
  deriving DecidableEq, Repr

namespace HeaderFault

/-- The text shown to people. -/
def message : HeaderFault → String
  | .repeated name => s!"repeated header `{name}`"
  | .unexpectedItem item => s!"unexpected list item `{item}`"
  | .unexpectedContinuation text => s!"unexpected continuation line `{text}`"
  | .malformedLine line => s!"malformed header line `{line}`"
  | .invalidName name => s!"invalid header name `{name}`"

end HeaderFault

namespace HeaderBlock

/-- A character that may start a header name. -/
def isNameStart (c : Char) : Bool :=
  'a' ≤ c && c ≤ 'z'

/-- A character that may stand in a header name. -/
def isNameChar (c : Char) : Bool :=
  isNameStart c || ('0' ≤ c && c ≤ '9') || c == '-'

/-- A header name: a lower-case letter, then lower-case letters, digits and dashes. -/
def isName : List Char → Bool
  | [] => false
  | c :: rest => isNameStart c && rest.all isNameChar

/-- A line of a block by how it starts. -/
inductive Line where
  /-- Two spaces, a dash, a space and the item. -/
  | item (text : List Char)
  /-- Two spaces and the text, which does not make an item. -/
  | continuation (text : List Char)
  /-- Any other line. -/
  | field (line : List Char)
  deriving DecidableEq

/-- The kind of a line. -/
def Line.ofChars : List Char → Line
  | ' ' :: ' ' :: '-' :: ' ' :: text => .item text
  | ' ' :: ' ' :: text => .continuation text
  | line => .field line

/-- The text before the first colon and the text after it. -/
def splitColon? : List Char → Option (List Char × List Char)
  | [] => none
  | c :: rest =>
    if c = ':' then some ([], rest)
    else (splitColon? rest).map fun (name, value) => (c :: name, value)

/-- The text without one space in front. -/
def dropSpace : List Char → List Char
  | ' ' :: rest => rest
  | text => text

/-- The value of a header while its lines are still being read. -/
inductive Pending where
  | empty
  | inline (text : List Char)
  | block (ls : List (List Char))
  | items (ls : List (List Char))

/-- The value of a header whose lines have all been read. -/
def Pending.value : Pending → HeaderValue
  | .empty => .text ""
  | .inline text => .text (String.ofList text)
  | .block ls => .text (String.ofList (Lines.join ls))
  | .items ls => .list (ls.map String.ofList)

/-- The name and the first value of a field line. -/
def field (line : List Char) : Except HeaderFault (String × Pending) :=
  match splitColon? line with
  | none => .error (.malformedLine (String.ofList line))
  | some (name, value) =>
    if isName name then
      match dropSpace value with
      | [] => .ok (String.ofList name, .empty)
      | text => .ok (String.ofList name, .inline text)
    else .error (.invalidName (String.ofList name))

/-- The headers with the one that was being read. -/
def close (headers : Headers) : Option (String × Pending) → Except HeaderFault Headers
  | none => .ok headers
  | some (name, pending) =>
    if headers.contains name then .error (.repeated name)
    else .ok (headers.insert name pending.value)

/-- The header being read, with a list item more. -/
def addItem (item : List Char) :
    Option (String × Pending) → Except HeaderFault (String × Pending)
  | some (name, .empty) => .ok (name, .items [item])
  | some (name, .items ls) => .ok (name, .items (ls ++ [item]))
  | _ => .error (.unexpectedItem (String.ofList item))

/-- The header being read, with a line of text more. -/
def addLine (text : List Char) :
    Option (String × Pending) → Except HeaderFault (String × Pending)
  | some (name, .empty) => .ok (name, .block [text])
  | some (name, .block ls) => .ok (name, .block (ls ++ [text]))
  | _ => .error (.unexpectedContinuation (String.ofList text))

/-- Reads lines into the headers so far and the header being read. -/
def readLines (headers : Headers) (current : Option (String × Pending)) :
    List (List Char) → Except HeaderFault Headers
  | [] => close headers current
  | line :: rest =>
    match Line.ofChars line with
    | .item text => do
      let current ← addItem text current
      readLines headers (some current) rest
    | .continuation text => do
      let current ← addLine text current
      readLines headers (some current) rest
    | .field line => do
      let headers ← close headers current
      let current ← field line
      readLines headers (some current) rest

/-- The headers of a block. -/
def parse (block : List Char) : Except HeaderFault Headers :=
  readLines Dictionary.empty none (Lines.split block)

end HeaderBlock

end FleetIdentity
