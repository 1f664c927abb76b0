import FleetIdentity.Assertion.TrustedKey
import FleetIdentity.Settings.Choice
import FleetIdentity.Text.Blank

/-!
Settings of the service: their defaults, their forms as data, and what they must satisfy.
-/

namespace FleetIdentity

/-- The settings; each has a default. -/
structure Settings where
  listenPort : UInt16 := 8030
  driver : StoreDriver := .memory
  /-- The path of the database; without one it is held in memory. -/
  datasource : String := ""
  mqttUrl : String := "mqtt.example.com"
  mqttPort : String := "8883"
  /-- The directory of the authority that signs for organizations. -/
  certsDir : String := "certs"
  issuance : IssuanceMode := .selfSigned
  keyAlgorithm : KeyAlgorithm := .rsa2048
  logLevel : String := "info"
  logFormat : LogFormat := .pretty
  trustedKeys : List TrustedKey := []
  deriving DecidableEq, Repr

namespace Settings

/-- A port as an integer. -/
def portOfDatum (d : Datum) : Except DatumFault UInt16 :=
  (d.toInteger 0 65535).map fun n => UInt16.ofNat n.toNat

/-- The fields of the settings; each may be left out. -/
def reader (written : Notation) : RecordReader Settings :=
  let default : Settings := {}
  mk <$> .withDefault "port" portOfDatum default.listenPort
    <*> .withDefault "driver" (Named.ofDatum _ written) default.driver
    <*> .withDefault "datasource" Datum.toText default.datasource
    <*> .withDefault "mqtt_url" Datum.toText default.mqttUrl
    <*> .withDefault "mqtt_port" Datum.toText default.mqttPort
    <*> .withDefault "certs_dir" Datum.toText default.certsDir
    <*> .withDefault "issuance" (Named.ofDatum _ written) default.issuance
    <*> .withDefault "key_algorithm" (Named.ofDatum _ written) default.keyAlgorithm
    <*> .withDefault "log_level" Datum.toText default.logLevel
    <*> .withDefault "log_format" (Named.ofDatum _ written) default.logFormat
    <*> .withDefault "trusted_keys" (Datum.toListOf (TrustedKey.reader.read written)) []

/-- The settings in data of a notation. -/
def ofDatum (written : Notation) (d : Datum) : Except DatumFault Settings :=
  (reader written).read written d

/-- The JSON form of the settings. -/
def toJson (s : Settings) : Json :=
  .object [
    ("port", .integer s.listenPort.toNat),
    ("driver", .text (Named.name s.driver)),
    ("datasource", .text s.datasource),
    ("mqtt_url", .text s.mqttUrl),
    ("mqtt_port", .text s.mqttPort),
    ("certs_dir", .text s.certsDir),
    ("issuance", .text (Named.name s.issuance)),
    ("key_algorithm", .text (Named.name s.keyAlgorithm)),
    ("log_level", .text s.logLevel),
    ("log_format", .text (Named.name s.logFormat)),
    ("trusted_keys", .list (s.trustedKeys.map TrustedKey.toJson))]

/-- The digits at the end of a port, as a number. -/
def digitsValue (digits : List Char) : Nat :=
  digits.foldl (fun n c => 10 * n + (c.toNat - 48)) 0

/-- The digits of a port that may have a plus sign in front. -/
def portDigits : List Char → List Char
  | '+' :: digits => digits
  | digits => digits

/-- The port that a text is: an optional plus sign and decimal digits, 65535 at most. -/
def port? (text : String) : Option UInt16 :=
  let digits := portDigits text.toList
  if digits ≠ [] ∧ digits.all (fun c => '0' ≤ c && c ≤ '9') ∧ digitsValue digits ≤ 65535 then
    some (UInt16.ofNat (digitsValue digits))
  else none

/-- Refuses settings that the service cannot run with. -/
def validate (s : Settings) : Except SettingsError Unit :=
  if s.listenPort = 0 then .error .zeroPort
  else if isBlank s.mqttUrl then .error .blankMqttUrl
  else if (port? s.mqttPort).isNone then .error (.invalidMqttPort s.mqttPort)
  else if s.trustedKeys.any (isBlank ·.authorityId) then .error .blankAuthority
  else .ok ()

end Settings

end FleetIdentity
