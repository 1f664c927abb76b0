import FleetIdentity.Datum

/-!
Records and choices as data.

A record is a table of its fields, in any order and among other entries, or a list of its fields in
their order. A choice of one of several names is the name as a text, or a table of the name and
nothing else. Two notations differ in what is left to them: whether a list may hold more than the
fields, and how nothing is written.
-/

namespace FleetIdentity

/-- The notation that data are written in. -/
inductive Notation where
  | json
  | toml
  deriving DecidableEq, Repr

namespace Notation

/-- A list that stands for a record may hold more items than the record has fields. -/
def allowsMoreItems : Notation → Bool
  | .json => false
  | .toml => true

/-- The tree is how the notation writes nothing. -/
def isNothing : Notation → Datum → Bool
  | .json, .null => true
  | .toml, .list [] => true
  | .toml, .table [] => true
  | _, _ => false

end Notation

namespace Datum

/-- The choice of which a text is the name. -/
def chosen {α : Type} (choices : List (String × α)) (name : String) : Except DatumFault α :=
  match choices.lookup name with
  | some choice => .ok choice
  | none => .error .mismatch

/-- One of several named choices. -/
def toChoice {α : Type} (choices : List (String × α)) (written : Notation) :
    Datum → Except DatumFault α
  | .text (some name) => chosen choices name
  | .table ((some name, value) :: more) => do
    let choice ← chosen choices name
    if !written.isNothing value then throw value.refusal
    if more.isEmpty then return choice else throw .unreadable
  | _ => .error .unreadable

end Datum

/-- How the fields of a record are read. -/
structure RecordReader (α : Type) where
  /-- The names of the fields with a check of their values. -/
  fields : List (String × (Datum → Except DatumFault Unit))
  /-- The record of named values. -/
  ofEntries : (String → Option Datum) → Except DatumFault α
  /-- The record of the first items, and the other items. -/
  ofItems : List Datum → Except DatumFault (α × List Datum)

namespace RecordReader

variable {α β : Type}

/-- A field that may be absent when there is a default for it. -/
def field (name : String) (value : Datum → Except DatumFault α) (default : Option α) :
    RecordReader α where
  fields := [(name, fun d => (value d).map fun _ => ())]
  ofEntries get? :=
    match get? name, default with
    | some d, _ => value d
    | none, some a => .ok a
    | none, none => .error .mismatch
  ofItems
    | d :: rest => (value d).map fun a => (a, rest)
    | [] => match default with
      | some a => .ok (a, [])
      | none => .error .mismatch

/-- A field that must be present. -/
def required (name : String) (value : Datum → Except DatumFault α) : RecordReader α :=
  field name value none

/-- A field with a default. -/
def withDefault (name : String) (value : Datum → Except DatumFault α) (default : α) :
    RecordReader α :=
  field name value (some default)

/-- A record without fields. -/
def constant (a : α) : RecordReader α where
  fields := []
  ofEntries _ := .ok a
  ofItems items := .ok (a, items)

/-- A record with one field more. -/
def apply (f : RecordReader (α → β)) (x : RecordReader α) : RecordReader β where
  fields := f.fields ++ x.fields
  ofEntries get? := do
    let g ← f.ofEntries get?
    let a ← x.ofEntries get?
    return g a
  ofItems items := do
    let (g, items) ← f.ofItems items
    let (a, items) ← x.ofItems items
    return (g a, items)

instance : Pure RecordReader := ⟨constant⟩

instance : Seq RecordReader := ⟨fun f x => f.apply (x ())⟩

instance : Functor RecordReader where
  map f x := (constant f).apply x

/-- Checks the entries of a table one after the other; a field occurs once. -/
def check (r : RecordReader α) (seen : List String) :
    List (Option String × Datum) → Except DatumFault Unit
  | [] => .ok ()
  | (none, _) :: _ => .error .unreadable
  | (some name, d) :: rest =>
    match r.fields.lookup name with
    | none => do
      d.ignore
      r.check seen rest
    | some value =>
      if seen.contains name then .error .mismatch
      else do
        value d
        r.check (name :: seen) rest

/-- The record that a tree stands for. -/
def read (r : RecordReader α) (written : Notation) : Datum → Except DatumFault α
  | .table entries => do
    r.check [] entries
    r.ofEntries fun name => entries.lookup (some name)
  | .list items => do
    let (a, rest) ← r.ofItems items
    if rest.isEmpty || written.allowsMoreItems then return a else throw .unreadable
  | d => .error d.refusal

end RecordReader

end FleetIdentity
