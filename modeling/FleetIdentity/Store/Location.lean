import FleetIdentity.Settings.Choice
import FleetIdentity.Store.Basic

/-!
Where a store is kept, and opening it.

A database is a file, or in memory when no path is given. Opening makes the directories on the way
to the file; it fails when one of them is a file, when the path is a directory, and when the file
holds something that is no database. Only a database in a file is seen by others than the store.
-/

namespace FleetIdentity

/-- The place of a store. -/
inductive StoreLocation where
  /-- Gone when the service stops. -/
  | memory
  /-- A database that is gone when the service stops. -/
  | transient
  /-- A database in a file. -/
  | file (path : String)
  deriving DecidableEq, Repr

/-- The files that there are besides the database, with their contents. -/
abbrev Disk := List (String × String)

namespace StoreLocation

/-- The location that settings select. -/
def ofSettings (driver : StoreDriver) (datasource : String) : StoreLocation :=
  match driver with
  | .memory => .memory
  | .sqlite => if datasource.isEmpty then .transient else .file datasource

/-- The steps of a path; a dot stays where it is, and two dots go back. -/
def steps (path : String) : List String :=
  (path.splitOn "/").foldl (fun steps step =>
    if step = "" ∨ step = "." then steps
    else if step = ".." then steps.dropLast
    else steps ++ [step]) []

/-- The reason why no database can be opened at a path. -/
def obstacle (disk : Disk) (path : String) : Option String :=
  let target := steps path
  if target.isEmpty ∨ path.endsWith "/" then some "unable to open database file"
  else disk.findSome? fun (name, content) =>
    let file := steps name
    if file = target then if content.isEmpty then none else some "file is not a database"
    else if file.isPrefixOf target then some "Not a directory"
    else if target.isPrefixOf file then some "unable to open database file"
    else none

/-- Opens a store that was never opened before. -/
def openFirst (disk : Disk) : StoreLocation → Except IdentityError Store
  | .memory => .ok (.memory .empty)
  | .transient => .ok (.database .empty)
  | .file path =>
    match obstacle disk path with
    | some reason => .error (.storage reason)
    | none => .ok (.database .empty)

/-- Opens a store again: only what is in a file is still there, and missing tables are made. -/
def openAgain (last : Store) : StoreLocation → Store
  | .memory => .memory .empty
  | .transient => .database .empty
  | .file _ =>
    match last with
    | .database t => .database t.withTables
    | .memory t => .memory t

/-- Runs statements over a connection of its own, past the store. It finds the tables of a file; a
store in memory is private, and the connection finds no tables beside it. -/
def pastStore {α : Type} (statements : Database → Except IdentityError (α × Database))
    (store : Store) : StoreLocation → Except IdentityError (α × Store)
  | .memory | .transient => (statements .bare).map fun (a, _) => (a, store)
  | .file _ =>
    match store with
    | .database t => Store.answer .database (statements t)
    | .memory _ => (statements .bare).map fun (a, _) => (a, store)

end StoreLocation

end FleetIdentity
