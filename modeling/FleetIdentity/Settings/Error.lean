/-!
What can be wrong with the settings.
-/

namespace FleetIdentity

/-- Why settings cannot be used. -/
inductive SettingsError where
  /-- The environment gives a port that is none. -/
  | invalidPort (text : String)
  /-- A setting has a name that is none of its choices. -/
  | unknownChoice (setting : String) (allowed : List String) (text : String)
  /-- The service cannot listen on port zero. -/
  | zeroPort
  /-- The address of the message broker is blank. -/
  | blankMqttUrl
  /-- The port of the message broker is none. -/
  | invalidMqttPort (text : String)
  /-- A trusted key names no authority. -/
  | blankAuthority
  /-- The settings file is malformed, or its values have the wrong types. -/
  | malformed
  /-- The settings file cannot be read as text. -/
  | unreadable
  deriving DecidableEq, Repr

namespace SettingsError

/-- The stable identifier of the kind of failure. -/
def code : SettingsError → String
  | .malformed => "parse"
  | .unreadable => "io"
  | _ => "config"

/-- What the failure is about. -/
def detail : SettingsError → String
  | .invalidPort text => s!"invalid IOTID_PORT: {text}"
  | .unknownChoice setting allowed text =>
    setting ++ " must be one of: " ++ String.intercalate ", " allowed ++ s!" (got '{text}')"
  | .zeroPort => "port must be non-zero"
  | .blankMqttUrl => "mqtt_url must not be empty"
  | .invalidMqttPort text => s!"mqtt_port must be a port number, got '{text}'"
  | .blankAuthority => "trusted key authority_id must not be empty"
  | .malformed => "malformed document"
  | .unreadable => "no readable text"

/-- The text shown to people. -/
def message : SettingsError → String
  | .malformed => "Settings parse error: " ++ detail .malformed
  | .unreadable => "IO error: " ++ detail .unreadable
  | e => "Configuration error: " ++ e.detail

end SettingsError

end FleetIdentity
