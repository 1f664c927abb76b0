/-!
Data as they are read: a tree of values, and a mark where the text breaks off.

A reader goes through a text once, from the front. What it has read before it meets a fault is in
the tree, and the fault is a leaf, so that who takes the tree apart in the order of the text meets a
value of the wrong kind and a fault in the order in which they stand there.
-/

namespace FleetIdentity

/-- A tree of data. -/
inductive Datum where
  | null
  | bool (value : Bool)
  | integer (value : Int)
  /-- A number with a fraction or an exponent, and whether it is within the range of a double. -/
  | real (inRange : Bool)
  /-- A text, unless it is no text at all: an unpaired surrogate, or octets that are no
  characters. -/
  | text (value : Option String)
  /-- A date, a time or both. -/
  | moment
  | list (items : List Datum)
  /-- Named values in the order of the text; a name may be no text. -/
  | table (entries : List (Option String × Datum))
  /-- The place where the text breaks off or is malformed. -/
  | cut
  deriving Inhabited

/-- Why a tree is not a value of the type that is wanted. -/
inductive DatumFault where
  /-- The text is malformed. -/
  | unreadable
  /-- The text is well formed, but holds something else. -/
  | mismatch
  deriving DecidableEq, Repr

namespace Datum

mutual

/-- No text breaks off within the tree. -/
def isWhole : Datum → Bool
  | .list items => areWhole items
  | .table entries => haveWholeValues entries
  | .cut => false
  | _ => true

/-- No text breaks off within the trees. -/
def areWhole : List Datum → Bool
  | [] => true
  | item :: rest => item.isWhole && areWhole rest

/-- No text breaks off within the values. -/
def haveWholeValues : List (Option String × Datum) → Bool
  | [] => true
  | (_, value) :: rest => value.isWhole && haveWholeValues rest

end

/-- The fault of a tree where something else is wanted: a leaf is read before it is refused. -/
def refusal : Datum → DatumFault
  | .cut | .text none | .real false => .unreadable
  | _ => .mismatch

/-- Passes over a tree that is of no interest. -/
def ignore (d : Datum) : Except DatumFault Unit :=
  if d.isWhole then .ok () else .error .unreadable

/-- The text that a tree is. -/
def toText : Datum → Except DatumFault String
  | .text (some s) => .ok s
  | d => .error d.refusal

/-- The text that a tree is, or nothing when it is null. -/
def toOptionalText : Datum → Except DatumFault (Option String)
  | .null => .ok none
  | d => d.toText.map some

/-- The integer between two bounds that a tree is. -/
def toInteger (low high : Int) : Datum → Except DatumFault Int
  | .integer n => if low ≤ n ∧ n ≤ high then .ok n else .error .mismatch
  | d => .error d.refusal

/-- The list of what the items of a tree are. -/
def toListOf {α : Type} (item : Datum → Except DatumFault α) : Datum → Except DatumFault (List α)
  | .list items => items.mapM item
  | d => .error d.refusal

end Datum

end FleetIdentity
