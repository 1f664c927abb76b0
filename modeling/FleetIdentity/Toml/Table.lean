import FleetIdentity.Datum

/-!
Tables of a TOML document while it is being read.

A table can be written in parts, so each table remembers how it came about, and that decides what
may be added: a header defines a table once; a dotted key makes tables that only dotted keys extend;
a table that only stood in the path of a header may still be defined.
-/

namespace FleetIdentity.Toml

/-- How a table came about. -/
inductive Origin where
  /-- Its own header, or the document itself. -/
  | header
  /-- The path of another header. -/
  | path
  /-- The path of a dotted key. -/
  | dotted
  deriving DecidableEq

mutual

/-- What a name stands for. -/
inductive Node where
  | value (d : Datum)
  | table (t : Table)
  /-- The tables of one repeated header, the last one first. -/
  | tables (last : Table) (earlier : List Table)

/-- A table in the order in which its names occur. -/
inductive Table where
  | mk (origin : Origin) (entries : List (String × Node))

end

namespace Table

/-- How the table came about. -/
def origin : Table → Origin
  | .mk origin _ => origin

/-- The names with what they stand for. -/
def entries : Table → List (String × Node)
  | .mk _ entries => entries

/-- A table without names. -/
def empty (origin : Origin) : Table :=
  .mk origin []

/-- What a name stands for. -/
def get? (t : Table) (name : String) : Option Node :=
  t.entries.lookup name

/-- The table with a name set; the name keeps its place. -/
def put (t : Table) (name : String) (node : Node) : Table :=
  let entries :=
    if (t.get? name).isSome then
      t.entries.map fun entry => if entry.1 = name then (name, node) else entry
    else t.entries ++ [(name, node)]
  .mk t.origin entries

/-- Changes the table at the end of a path; what is missing on the way comes about as `made`. -/
def update? (made : Origin) (change : Table → Option Table) :
    (path : List String) → Table → Option Table
  | [], t => change t
  | name :: path, t =>
    match t.get? name with
    | none => do
      let inner ← update? made change path (empty made)
      return t.put name (.table inner)
    | some (.table inner) => do
      if made = .dotted ∧ inner.origin = .header then none
      let inner ← update? made change path inner
      return t.put name (.table inner)
    | some (.tables last earlier) => do
      let last ← update? made change path last
      return t.put name (.tables last earlier)
    | some (.value _) => none

/-- Adds a value under a dotted key; only a table of dotted keys is extended by one. -/
def add? (path : List String) (name : String) (value : Datum) (t : Table) : Option Table :=
  t.update? .dotted
    (fun inner =>
      if (inner.origin = .dotted) = (path = []) ∨ (inner.get? name).isSome then none
      else some (inner.put name (.value value)))
    path

/-- Puts a table where a header names it, or after the others under a repeated header. -/
def place? (t : Table) (path : List String) (name : String) (repeated : Bool) (new : Table) :
    Option Table :=
  t.update? .path
    (fun inner =>
      if repeated then
        match inner.get? name with
        | none => some (inner.put name (.tables new []))
        | some (.tables last earlier) => some (inner.put name (.tables new (last :: earlier)))
        | some _ => none
      else some (inner.put name (.table new)))
    path

/-- The table that a header may go on to define. -/
def opened? (path : List String) (name : String) (repeated : Bool) (t : Table) : Option Table :=
  match path with
  | [] =>
    match t.get? name with
    | none => some (empty .header)
    | some (.table inner) =>
      if !repeated && inner.origin = .path then some (.mk .header inner.entries) else none
    | some (.tables _ _) => if repeated then some (empty .header) else none
    | some (.value _) => none
  | step :: path =>
    match t.get? step with
    | none => some (empty .header)
    | some (.table inner) => opened? path name repeated inner
    | some (.tables last _) => opened? path name repeated last
    | some (.value _) => none

end Table

mutual

/-- What a name stands for as data. -/
def Node.toDatum : Node → Datum
  | .value d => d
  | .table t => t.toDatum
  | .tables last earlier => .list ((last.toDatum :: Table.toData earlier).reverse)

/-- A table as data. -/
def Table.toDatum : Table → Datum
  | .mk _ entries => .table (Table.toEntries entries)

/-- Tables as data. -/
def Table.toData : List Table → List Datum
  | [] => []
  | t :: rest => t.toDatum :: Table.toData rest

/-- The entries of a table as data. -/
def Table.toEntries : List (String × Node) → List (Option String × Datum)
  | [] => []
  | (name, node) :: rest => (some name, node.toDatum) :: Table.toEntries rest

end

end FleetIdentity.Toml
