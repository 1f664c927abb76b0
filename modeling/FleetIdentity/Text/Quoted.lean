import FleetIdentity.Text.Shapeless

/-!
Values as people read them in logs: quoted texts and records of named fields.

A quoted text escapes quotes, backslashes, line ends, tabs and what has no shape of its own:
controls, format characters, uncommon spaces, private use, and marks that attach to another
character.
-/

namespace FleetIdentity.Quoted

/-- A character as it stands between quotes. -/
def escape (c : Char) : List Char :=
  match c with
  | '"' => ['\\', '"']
  | '\\' => ['\\', '\\']
  | '\n' => ['\\', 'n']
  | '\r' => ['\\', 'r']
  | '\t' => ['\\', 't']
  | '\x00' => ['\\', '0']
  | c =>
    if isShapeless c then ['\\', 'u', '\x7b'] ++ Nat.toDigits 16 c.toNat ++ ['\x7d'] else [c]

/-- A text between quotes. -/
def text (s : String) : String :=
  String.ofList ('"' :: s.toList.flatMap escape ++ ['"'])

/-- A record with its fields, and a hint when there are more of them than shown. -/
def record (name : String) (fields : List (String × String)) (more : Bool) : String :=
  let shown := fields.map fun (field, value) => s!"{field}: {value}"
  let all := if more then shown ++ [".."] else shown
  name ++ " \x7b " ++ String.intercalate ", " all ++ " \x7d"

/-- What stands in the place of a secret. -/
def redacted : String := text "<redacted>"

end FleetIdentity.Quoted
