import FleetIdentity.Datum.Json
import FleetIdentity.Settings.Override
import FleetIdentity.Text.Utf8
import FleetIdentity.Toml.Document

/-!
Where settings come from: a TOML document, a JSON text, a file with the environment on top.
-/

namespace FleetIdentity

/-- How certificates of organizations come about. -/
inductive IssuanceStrategy where
  | selfSigned
  | externalRoot (directory : String)
  deriving DecidableEq, Repr

namespace Settings

/-- The settings of a TOML document. -/
def ofToml (text : String) : Except SettingsError Settings :=
  match (Toml.read? text.toList).map (ofDatum .toml) with
  | some (.ok s) => .ok s
  | _ => .error .malformed

/-- The settings of a JSON text. -/
def ofJson (octets : Octets) : Except DatumFault Settings :=
  ofDatum .json (JsonReader.readAll octets)

/-- What a path that may have been given leads to. -/
inductive File where
  /-- No path was given. -/
  | unset
  /-- There is no such file. -/
  | missing
  | octets (content : Octets)

/-- The settings of a file, the defaults without one. -/
def ofFile : File → Except SettingsError Settings
  | .unset => .ok {}
  | .missing => .error .unreadable
  | .octets content =>
    match Utf8.toString? content with
    | none => .error .unreadable
    | some text => ofToml text

/-- The settings of a file with the environment on top, if the service can run with them. -/
def load (file : File) (lookup : String → Option String) : Except SettingsError Settings := do
  let (s, failure) := (← ofFile file).override lookup
  if let some e := failure then throw e
  s.validate
  return s

/-- How the settings have certificates of organizations come about. -/
def strategy (s : Settings) : IssuanceStrategy :=
  match s.issuance with
  | .selfSigned => .selfSigned
  | .externalRoot => .externalRoot s.certsDir

end Settings

end FleetIdentity
