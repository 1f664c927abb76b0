import FleetIdentity.Store.Basic

/-!
Sequences of calls of a store.

A sequence ends at the first failure. A failing call of the store changes nothing, but what earlier
calls of the sequence wrote stays written.
-/

namespace FleetIdentity

/-- Calls of a store, one after the other. -/
abbrev StoreCall (α : Type) := ExceptT IdentityError (StateM Store) α

namespace StoreCall

variable {α : Type}

/-- The answer and the store after the calls. -/
def runOn (call : StoreCall α) (store : Store) : Except IdentityError α × Store :=
  call store

/-- A call that only looks at the store. -/
def read (answer : Store → Except IdentityError α) : StoreCall α :=
  fun store => (answer store, store)

/-- A call that changes the store unless it fails. -/
def write (answer : Store → Except IdentityError (α × Store)) : StoreCall α :=
  fun store =>
    match answer store with
    | .ok (a, next) => (.ok a, next)
    | .error e => (.error e, store)

/-- Ends the calls if there is a failure. -/
def ofExcept (outcome : Except IdentityError α) : StoreCall α :=
  fun store => (outcome, store)

end StoreCall

end FleetIdentity
