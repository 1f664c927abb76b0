import FleetIdentity.Datum
import FleetIdentity.Encoding.Hex

/-!
JSON values that the service writes, and their compact text.

Only what the service has to say is here: no fractions. The text has no
space, members stand in the order given, and only quotes, backslashes and control characters are
escaped.
-/

namespace FleetIdentity

/-- A value to be written. -/
inductive Json where
  | null
  | bool (value : Bool)
  | integer (value : Int)
  | text (value : String)
  | list (items : List Json)
  | object (members : List (String × Json))
  deriving Inhabited

namespace Json

/-- A character as it stands between quotes. -/
def escape (c : Char) : List Char :=
  match c with
  | '"' => ['\\', '"']
  | '\\' => ['\\', '\\']
  | '\n' => ['\\', 'n']
  | '\r' => ['\\', 'r']
  | '\t' => ['\\', 't']
  | '\x08' => ['\\', 'b']
  | '\x0c' => ['\\', 'f']
  | c => if c < ' ' then ['\\', 'u', '0', '0'] ++ Hex.digits (UInt8.ofNat c.toNat) else [c]

/-- A text between quotes. -/
def quote (s : String) : List Char :=
  '"' :: s.toList.flatMap escape ++ ['"']

/-- The digits of an integer. -/
def digits (n : Int) : List Char :=
  (toString n).toList

mutual

/-- The compact text of a value. -/
def write : Json → List Char
  | .null => ['n', 'u', 'l', 'l']
  | .bool true => ['t', 'r', 'u', 'e']
  | .bool false => ['f', 'a', 'l', 's', 'e']
  | .integer n => digits n
  | .text s => quote s
  | .list items => '[' :: writeItems items ++ [']']
  | .object members => '\x7b' :: writeMembers members ++ ['\x7d']

/-- The items with a comma between each two. -/
def writeItems : List Json → List Char
  | [] => []
  | [item] => item.write
  | item :: rest => item.write ++ ',' :: writeItems rest

/-- The members with a comma between each two. -/
def writeMembers : List (String × Json) → List Char
  | [] => []
  | [(name, value)] => quote name ++ ':' :: value.write
  | (name, value) :: rest => quote name ++ ':' :: value.write ++ ',' :: writeMembers rest

end

/-- The compact text of a value as a string. -/
def toText (j : Json) : String :=
  String.ofList j.write

end Json

end FleetIdentity
