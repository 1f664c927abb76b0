import FleetIdentity.Settings.Basic

/-!
Settings from the environment.

Each variable overrides one setting. The variables are taken in a fixed order up to the first one
whose value is no value of its setting; the overrides before it hold.
-/

namespace FleetIdentity

/-- A variable of the environment and what its value does to the settings. -/
structure Override where
  variableName : String
  apply : (value : String) → Settings → Except SettingsError Settings

namespace Override

/-- An override by any text. -/
def text (variableName : String) (set : String → Settings → Settings) : Override where
  variableName
  apply value s := .ok (set value s)

/-- An override by the name of a choice. -/
def choice {α : Type} [Named α] (variableName : String) (set : α → Settings → Settings) :
    Override where
  variableName
  apply value s := (Named.parse α value).map (set · s)

/-- The override of the port. -/
def port : Override where
  variableName := "IOTID_PORT"
  apply value s :=
    match Settings.port? value with
    | some listenPort => .ok { s with listenPort }
    | none => .error (.invalidPort value)

/-- All overrides in their order. -/
def all : List Override := [
  port,
  choice "IOTID_DRIVER" fun driver s => { s with driver },
  text "IOTID_DATASOURCE" fun datasource s => { s with datasource },
  text "IOTID_MQTT_URL" fun mqttUrl s => { s with mqttUrl },
  text "IOTID_MQTT_PORT" fun mqttPort s => { s with mqttPort },
  text "IOTID_CERTS_DIR" fun certsDir s => { s with certsDir },
  choice "IOTID_ISSUANCE" fun issuance s => { s with issuance },
  choice "IOTID_KEY_ALGORITHM" fun keyAlgorithm s => { s with keyAlgorithm },
  text "IOTID_LOG_LEVEL" fun logLevel s => { s with logLevel },
  choice "IOTID_LOG_FORMAT" fun logFormat s => { s with logFormat }]

/-- The settings after overrides up to the first that fails, and that failure. -/
def applyAll (lookup : String → Option String) :
    List Override → Settings → Settings × Option SettingsError
  | [], s => (s, none)
  | o :: rest, s =>
    match lookup o.variableName with
    | none => applyAll lookup rest s
    | some value =>
      match o.apply value s with
      | .ok s => applyAll lookup rest s
      | .error e => (s, some e)

end Override

namespace Settings

/-- The settings with the variables of an environment. -/
def override (s : Settings) (lookup : String → Option String) : Settings × Option SettingsError :=
  Override.applyAll lookup Override.all s

end Settings

end FleetIdentity
