import FleetIdentity.Encoding.Hex
import FleetIdentity.Text.Lines
import FleetIdentity.Text.Utf8

/-!
The path of a request's target, and texts with percent signs.
-/

namespace FleetIdentity

namespace HttpPath

/-- What follows `//` and the name of the host in a whole address. -/
def afterHost : List Char → Option (List Char)
  | ':' :: '/' :: '/' :: rest => some (rest.dropWhile fun c => !(c == '/' || c == '?' || c == '#'))
  | _ :: rest => afterHost rest
  | [] => none

/-- The path of a target: without scheme and host, query and fragment. -/
def ofTarget (target : String) : List Char :=
  let text := target.toList
  let local? := if text.head? = some '/' then none else afterHost text
  let path := (local?.getD text).takeWhile fun c => !(c == '?' || c == '#')
  if path.isEmpty then ['/'] else path

/-- The pieces of a text between slashes. -/
def segments (path : List Char) : List String :=
  (Lines.cut '/' path).map String.ofList

/-- Reads percent signs with two digits as octets; another percent sign stands for itself. -/
def unescape : Octets → Octets
  | 0x25 :: a :: b :: rest =>
    match Hex.decode? [Char.ofNat a.toNat, Char.ofNat b.toNat] with
    | some octets => octets ++ unescape rest
    | none => 0x25 :: unescape (a :: b :: rest)
  | x :: rest => x :: unescape rest
  | [] => []

/-- The text that a segment stands for, unless its octets are no text. -/
def decode? (segment : String) : Option String :=
  Utf8.toString? (unescape (Utf8.ofString segment))

end HttpPath

end FleetIdentity
