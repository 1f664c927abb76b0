import FleetIdentity.Datum.Record
import FleetIdentity.Settings.Error

/-!
The settings that are one of several names.
-/

namespace FleetIdentity

/-- Where organizations and devices are kept. -/
inductive StoreDriver where
  | memory
  | sqlite
  deriving DecidableEq, Repr

/-- Who signs the certificates of organizations. -/
inductive IssuanceMode where
  /-- Every organization signs its own. -/
  | selfSigned
  /-- One authority outside the service signs all. -/
  | externalRoot
  deriving DecidableEq, Repr

/-- The kind of key that new organizations and devices get. -/
inductive KeyAlgorithm where
  | rsa2048
  | ecdsaP256
  deriving DecidableEq, Repr

/-- The form of log lines. -/
inductive LogFormat where
  | pretty
  | json
  deriving DecidableEq, Repr

/-- A type whose values have names. -/
class Named (α : Type) where
  /-- The setting that holds such a value. -/
  setting : String
  /-- All values with their names. -/
  choices : List (String × α)
  /-- The name of a value. -/
  name : α → String

instance : Named StoreDriver where
  setting := "driver"
  choices := [("memory", .memory), ("sqlite", .sqlite)]
  name
    | .memory => "memory"
    | .sqlite => "sqlite"

instance : Named IssuanceMode where
  setting := "issuance"
  choices := [("self-signed", .selfSigned), ("external-root", .externalRoot)]
  name
    | .selfSigned => "self-signed"
    | .externalRoot => "external-root"

instance : Named KeyAlgorithm where
  setting := "key_algorithm"
  choices := [("rsa2048", .rsa2048), ("ecdsa-p256", .ecdsaP256)]
  name
    | .rsa2048 => "rsa2048"
    | .ecdsaP256 => "ecdsa-p256"

instance : Named LogFormat where
  setting := "log_format"
  choices := [("pretty", .pretty), ("json", .json)]
  name
    | .pretty => "pretty"
    | .json => "json"

namespace Named

variable (α : Type) [Named α]

/-- The value with a name, exactly as it is written. -/
def parse (text : String) : Except SettingsError α :=
  match (choices : List (String × α)).lookup text with
  | some choice => .ok choice
  | none => .error (.unknownChoice (setting α) ((choices : List (String × α)).map (·.1)) text)

/-- The value in data. -/
def ofDatum (written : Notation) (d : Datum) : Except DatumFault α :=
  d.toChoice choices written

end Named

end FleetIdentity
