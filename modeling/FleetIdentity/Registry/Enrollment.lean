import FleetIdentity.Registry.Device
import FleetIdentity.Registry.Organization
import FleetIdentity.Registry.Status

/-!
Enrollments: a device with its owner, its credentials and its status.
-/

namespace FleetIdentity

/-- The record of a registered device. -/
structure Enrollment where
  id : String
  device : Device
  credentials : Credentials
  organization : Organization
  status : Status
  /-- Free text that an administrator keeps about the device. -/
  deviceData : String
  deriving DecidableEq, Repr

namespace Enrollment

/-- The fields of an enrollment. -/
def reader : RecordReader Enrollment :=
  mk <$> .required "id" Datum.toText
    <*> .required "device" Device.ofDatum
    <*> .required "credentials" Credentials.ofDatum
    <*> .required "organization" Organization.ofDatum
    <*> .required "status" Status.ofDatum
    <*> .withDefault "deviceData" Datum.toText ""

/-- The enrollment in data. -/
def ofDatum (d : Datum) : Except DatumFault Enrollment :=
  reader.read .json d

/-- The JSON form of an enrollment. -/
def toJson (e : Enrollment) : Json :=
  .object [
    ("id", .text e.id),
    ("device", e.device.toJson),
    ("credentials", e.credentials.toJson),
    ("organization", e.organization.toJson),
    ("status", e.status.toJson),
    ("deviceData", .text e.deviceData)]

/-- The enrollment without the key of its organization. -/
def redacted (e : Enrollment) : Enrollment :=
  { e with organization := e.organization.redacted }

/-- The enrollment as logs show it. -/
def describe (e : Enrollment) : String :=
  Quoted.record "Enrollment"
    [("id", Quoted.text e.id), ("device", e.device.describe),
      ("credentials", e.credentials.describe), ("organization", e.organization.describe),
      ("status", e.status.describe), ("device_data", Quoted.text e.deviceData)] false

end Enrollment

end FleetIdentity
