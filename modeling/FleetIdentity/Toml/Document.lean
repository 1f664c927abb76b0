import FleetIdentity.Toml.Scalar
import FleetIdentity.Toml.Table

/-!
TOML documents.

A document is a sequence of lines: a key with its value, a header of a table, a header of one of
several tables, or nothing, each with a comment or not. Only lists go over line ends. Lists and
inline tables nest to a limit, and so do the parts of a key.
-/

namespace FleetIdentity.Toml

/-- One more than the depth to which lists and inline tables nest. -/
def depthLimit : Nat := 80

/-- A character of a key without quotes. -/
def isKeyChar (c : Char) : Bool :=
  c.isAlphanum || c == '-' || c == '_'

/-- One part of a key. -/
def keyPart? (text : List Char) : Option (String × List Char) :=
  match text with
  | '"' :: rest => (basic? rest).map fun (cs, rest) => (String.ofList cs, rest)
  | '\'' :: rest => (plain? rest).map fun (cs, rest) => (String.ofList cs, rest)
  | text =>
    match text.span isKeyChar with
    | ([], _) => none
    | (cs, rest) => some (String.ofList cs, rest)

/-- The parts of a key with points between them. -/
def keyParts? : (fuel : Nat) → List Char → Option (List String × List Char)
  | 0, _ => none
  | fuel + 1, text => do
    let (part, rest) ← keyPart? (skipSpace text)
    match skipSpace rest with
    | '.' :: rest => do
      let (more, rest) ← keyParts? fuel rest
      return (part :: more, rest)
    | rest => return ([part], rest)

/-- A key: the path to a table and a name in it. -/
def key? (text : List Char) : Option ((List String × String) × List Char) := do
  let (parts, rest) ← keyParts? (depthLimit - 1) text
  let name ← parts.getLast?
  return ((parts.dropLast, name), rest)

/-- The text without comment in front. -/
def skipComment : List Char → List Char
  | '#' :: rest => rest.dropWhile isPrintable
  | text => text

/-- The text after the end of a line, which may have a comment. -/
def endOfLine? (text : List Char) : Option (List Char) :=
  match skipComment (skipSpace text) with
  | [] => some []
  | '\n' :: rest => some rest
  | '\r' :: '\n' :: rest => some rest
  | _ => none

/-- The text without space, line ends and comments in front. -/
def skipLines : (comment : Bool) → List Char → List Char
  | _, [] => []
  | _, '\n' :: rest => skipLines false rest
  | _, '\r' :: '\n' :: rest => skipLines false rest
  | true, c :: rest => if isPrintable c then skipLines true rest else c :: rest
  | false, '#' :: rest => skipLines true rest
  | false, c :: rest => if isSpace c then skipLines false rest else c :: rest

mutual

/-- A value within `depth` lists and inline tables. -/
def value? : (fuel depth : Nat) → List Char → Option (Datum × List Char)
  | 0, _, _ => none
  | fuel + 1, depth, text =>
    match text with
    | '[' :: rest =>
      if depth + 1 < depthLimit then do
        let (items, rest) ← items? fuel (depth + 1) (skipLines false rest)
        return (.list items, rest)
      else none
    | '\x7b' :: rest =>
      if depth + 1 < depthLimit then
        match skipSpace rest with
        | '\x7d' :: rest => some (.table [], rest)
        | rest => do
          let (t, rest) ← members? fuel (depth + 1) (.empty .header) rest
          return (t.toDatum, rest)
      else none
    | text =>
      match string? text with
      | some (cs, rest) => some (.text (some (String.ofList cs)), rest)
      | none => plainScalar? text

/-- The items of a list up to its end; a comma may stand after the last one. -/
def items? : (fuel depth : Nat) → List Char → Option (List Datum × List Char)
  | 0, _, _ => none
  | fuel + 1, depth, text =>
    match text with
    | ']' :: rest => some ([], rest)
    | text => do
      let (item, rest) ← value? fuel depth text
      match skipLines false rest with
      | ',' :: rest => do
        let (more, rest) ← items? fuel depth (skipLines false rest)
        return (item :: more, rest)
      | ']' :: rest => return ([item], rest)
      | _ => none

/-- The members of an inline table up to its end. -/
def members? : (fuel depth : Nat) → Table → List Char → Option (Table × List Char)
  | 0, _, _, _ => none
  | fuel + 1, depth, t, text => do
    let ((path, name), rest) ← key? text
    let rest ← after? '=' rest
    let (d, rest) ← value? fuel depth (skipSpace rest)
    let t ← t.add? path name d
    match skipSpace rest with
    | ',' :: rest => members? fuel depth t rest
    | '\x7d' :: rest => return (t, rest)
    | _ => none

end

/-- A header: its path, its name, and whether it is one of several. -/
structure Header where
  path : List String
  name : String
  repeated : Bool

/-- The header at the front of a text. -/
def header? (text : List Char) : Option (Header × List Char) :=
  match text with
  | '[' :: '[' :: rest => do
    let ((path, name), rest) ← key? rest
    let rest ← after? ']' (← after? ']' rest)
    return ({ path, name, repeated := true }, rest)
  | '[' :: rest => do
    let ((path, name), rest) ← key? rest
    let rest ← after? ']' rest
    return ({ path, name, repeated := false }, rest)
  | _ => none

/-- A document in part: the table that is being written, under its header if it has one. -/
structure Draft where
  root : Table
  current : Option (Header × Table)

namespace Draft

/-- The document without a line. -/
def empty : Draft :=
  { root := .empty .header, current := none }

/-- The document with the table that was being written in its place. -/
def close? (d : Draft) : Option Table :=
  match d.current with
  | none => some d.root
  | some (header, t) => d.root.place? header.path header.name header.repeated t

/-- Starts the table of a header. -/
def open? (d : Draft) (header : Header) : Option Draft := do
  let root ← d.close?
  let t ← root.opened? header.path header.name header.repeated
  return { root, current := some (header, t) }

/-- Adds a value to the table that is being written. -/
def add? (d : Draft) (path : List String) (name : String) (value : Datum) : Option Draft :=
  match d.current with
  | none => do
    let root ← d.root.add? path name value
    return { d with root }
  | some (header, t) => do
    let t ← t.add? path name value
    return { d with current := some (header, t) }

end Draft

/-- Reads the lines of a text into a document. -/
def lines? : (fuel : Nat) → Draft → List Char → Option Draft
  | _, draft, [] => some draft
  | 0, _, _ => none
  | fuel + 1, draft, text =>
    match endOfLine? text with
    | some rest => lines? fuel draft rest
    | none =>
      match skipSpace text with
      | '[' :: rest => do
        let (header, rest) ← header? ('[' :: rest)
        let draft ← draft.open? header
        lines? fuel draft (← endOfLine? rest)
      | text => do
        let ((path, name), rest) ← key? text
        let rest ← after? '=' rest
        let (d, rest) ← value? (2 * rest.length + 2) 0 (skipSpace rest)
        let draft ← draft.add? path name d
        lines? fuel draft (← endOfLine? rest)

/-- The data of a document; a byte-order mark in front does not count. -/
def read? (text : List Char) : Option Datum := do
  let text := match text with
    | '\uFEFF' :: rest => rest
    | text => text
  let draft ← lines? (text.length + 1) .empty text
  let root ← draft.close?
  return root.toDatum

end FleetIdentity.Toml
