import FleetIdentity.Registry.Status

/-!
What clients ask for: the bodies of requests.
-/

namespace FleetIdentity

/-- The registration of an organization. -/
structure OrganizationRequest where
  name : String
  country : String
  deriving DecidableEq, Repr

/-- The registration of a device. -/
structure DeviceRequest where
  organizationId : String
  brand : String
  model : String
  serialNumber : String
  deriving DecidableEq, Repr

/-- The update of a device by an administrator: the number of a status, and perhaps new data. -/
structure DeviceUpdateRequest where
  status : Int
  deviceData : Option String
  deriving DecidableEq, Repr

/-- The registration of an organization in data. -/
def OrganizationRequest.ofDatum (d : Datum) : Except DatumFault OrganizationRequest :=
  RecordReader.read
    (mk <$> .required "name" Datum.toText <*> .withDefault "country" Datum.toText "") .json d

/-- The registration of a device in data. -/
def DeviceRequest.ofDatum (d : Datum) : Except DatumFault DeviceRequest :=
  RecordReader.read
    (mk <$> .required "orgid" Datum.toText
      <*> .required "brand" Datum.toText
      <*> .required "model" Datum.toText
      <*> .required "serial" Datum.toText) .json d

/-- The update of a device in data. -/
def DeviceUpdateRequest.ofDatum (d : Datum) : Except DatumFault DeviceUpdateRequest :=
  RecordReader.read
    (mk <$> .required "status" Status.codeOfDatum
      <*> .withDefault "deviceData" Datum.toOptionalText none) .json d

end FleetIdentity
