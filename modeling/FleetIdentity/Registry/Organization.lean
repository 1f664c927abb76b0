import FleetIdentity.Datum.Record
import FleetIdentity.Json
import FleetIdentity.Text.Quoted

/-!
Organizations: the tenants of the service.

An organization holds the key that signs the certificates of its devices. The key is read from JSON
when it is there, but never written to it, and not shown in logs.
-/

namespace FleetIdentity

/-- A tenant with its certificate authority. -/
structure Organization where
  id : String
  name : String
  country : String
  /-- The private key of the authority. -/
  rootKey : String
  /-- The certificate of the authority. -/
  rootCert : String
  deriving DecidableEq, Repr

namespace Organization

/-- The fields of an organization. -/
def reader : RecordReader Organization :=
  mk <$> .required "id" Datum.toText
    <*> .required "name" Datum.toText
    <*> .withDefault "country" Datum.toText ""
    <*> .withDefault "root_key" Datum.toText ""
    <*> .required "rootcert" Datum.toText

/-- The organization in data. -/
def ofDatum (d : Datum) : Except DatumFault Organization :=
  reader.read .json d

/-- The JSON form of an organization, without its key. -/
def toJson (o : Organization) : Json :=
  .object [
    ("id", .text o.id),
    ("name", .text o.name),
    ("country", .text o.country),
    ("rootcert", .text o.rootCert)]

/-- The organization without its key. -/
def redacted (o : Organization) : Organization :=
  { o with rootKey := "" }

/-- The organization as logs show it. -/
def describe (o : Organization) : String :=
  Quoted.record "Organization"
    [("id", Quoted.text o.id), ("name", Quoted.text o.name),
      ("country", Quoted.text o.country)] true

end Organization

end FleetIdentity
