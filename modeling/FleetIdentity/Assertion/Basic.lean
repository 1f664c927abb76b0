import FleetIdentity.Assertion.Header
import FleetIdentity.Error

/-!
Assertions: headers with a type.

Two types take part in enrollment, `model` and `serial`; any other has no kind.
-/

namespace FleetIdentity

/-- The header that names the type of an assertion. -/
def typeHeader : String := "type"

/-- The header that names the authority that signs. -/
def authorityHeader : String := "authority-id"

/-- The header that names the key that signs. -/
def signKeyHeader : String := "sign-key-id"

/-- The types of assertion that take part in enrollment. -/
inductive AssertionKind where
  | model
  | serial
  deriving DecidableEq, Repr

namespace AssertionKind

/-- The kind that a type names. -/
def ofType? (typeName : String) : Option AssertionKind :=
  if typeName = "model" then some .model
  else if typeName = "serial" then some .serial
  else none

/-- The type that names a kind. -/
def typeName : AssertionKind → String
  | .model => "model"
  | .serial => "serial"

theorem ofType?_eq_some_iff {t : String} {k : AssertionKind} :
    ofType? t = some k ↔ t = k.typeName := by
  unfold ofType?
  cases k <;> split <;> simp_all [typeName]

end AssertionKind

/-- Headers of which `type` is a text. -/
structure Assertion where
  typeName : String
  headers : Headers
  typeName_eq : headers.get? typeHeader = some (.text typeName)
  deriving DecidableEq

namespace Assertion

/-- The assertion with the given headers. -/
def ofHeaders (headers : Headers) : Except IdentityError Assertion :=
  match h : headers.get? typeHeader with
  | some (.text typeName) => .ok { typeName, headers, typeName_eq := h }
  | some (.list _) => .error (.assertionType "header `type` must be text")
  | none => .error (.missingHeader typeHeader)

/-- The kind of the assertion, if it takes part in enrollment. -/
def kind (a : Assertion) : Option AssertionKind :=
  AssertionKind.ofType? a.typeName

/-- The text of a header that may be absent. -/
def optionalText (a : Assertion) (name : String) : Except IdentityError (Option String) :=
  match a.headers.get? name with
  | none => .ok none
  | some (.text text) => .ok (some text)
  | some (.list _) =>
    .error (.assertionType
      s!"header `{name}` of {a.typeName} assertion must be text, found a list")

/-- The text of a header that must be present. -/
def requiredText (a : Assertion) (name : String) : Except IdentityError String := do
  match ← a.optionalText name with
  | some text => .ok text
  | none => .error (.missingHeader name)

end Assertion

end FleetIdentity
