import FleetIdentity.Datum.Record
import FleetIdentity.Json
import FleetIdentity.Text.Quoted

/-!
Devices and the credentials that they get.

A device is known by its brand, model and serial number together. What store it serves and what key
it has is learnt at its enrollment.
-/

namespace FleetIdentity

/-- The identity of a device. -/
structure Device where
  brand : String
  model : String
  serialNumber : String
  storeId : String
  deviceKey : String
  deriving DecidableEq, Repr

namespace Device

/-- Brand, model and serial number in one text, for messages. -/
def naturalKey (d : Device) : String :=
  s!"{d.brand}/{d.model}/{d.serialNumber}"

/-- The fields of a device. -/
def reader : RecordReader Device :=
  mk <$> .required "brand" Datum.toText
    <*> .required "model" Datum.toText
    <*> .required "serial" Datum.toText
    <*> .withDefault "store" Datum.toText ""
    <*> .withDefault "deviceKey" Datum.toText ""

/-- The device in data. -/
def ofDatum (d : Datum) : Except DatumFault Device :=
  reader.read .json d

/-- The JSON form of a device. -/
def toJson (d : Device) : Json :=
  .object [
    ("brand", .text d.brand),
    ("model", .text d.model),
    ("serial", .text d.serialNumber),
    ("store", .text d.storeId),
    ("deviceKey", .text d.deviceKey)]

/-- The device as logs show it. -/
def describe (d : Device) : String :=
  Quoted.record "Device"
    [("brand", Quoted.text d.brand), ("model", Quoted.text d.model),
      ("serial_number", Quoted.text d.serialNumber), ("store_id", Quoted.text d.storeId),
      ("device_key", Quoted.text d.deviceKey)] false

end Device

/-- What a device needs to connect: its key and certificate, and the address of the broker. -/
structure Credentials where
  privateKey : String
  certificate : String
  mqttUrl : String
  mqttPort : String
  deriving DecidableEq, Repr

namespace Credentials

/-- The fields of credentials. -/
def reader : RecordReader Credentials :=
  mk <$> .required "privateKey" Datum.toText
    <*> .required "certificate" Datum.toText
    <*> .required "mqttUrl" Datum.toText
    <*> .required "mqttPort" Datum.toText

/-- The credentials in data. -/
def ofDatum (d : Datum) : Except DatumFault Credentials :=
  reader.read .json d

/-- The JSON form of credentials. -/
def toJson (c : Credentials) : Json :=
  .object [
    ("privateKey", .text c.privateKey),
    ("certificate", .text c.certificate),
    ("mqttUrl", .text c.mqttUrl),
    ("mqttPort", .text c.mqttPort)]

/-- The credentials as logs show them, without the key. -/
def describe (c : Credentials) : String :=
  Quoted.record "Credentials"
    [("private_key", Quoted.redacted), ("mqtt_url", Quoted.text c.mqttUrl),
      ("mqtt_port", Quoted.text c.mqttPort)] true

end Credentials

end FleetIdentity
