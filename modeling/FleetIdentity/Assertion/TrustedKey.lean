import FleetIdentity.Datum.Record
import FleetIdentity.Json

/-!
Keys that the configuration trusts.
-/

namespace FleetIdentity

/-- A configured key: an authority and its public key in hexadecimal digits. -/
structure TrustedKey where
  authorityId : String
  publicKeyHex : String
  deriving DecidableEq, Repr

namespace TrustedKey

/-- The fields of a configured key. -/
def reader : RecordReader TrustedKey :=
  mk <$> .required "authority_id" Datum.toText <*> .required "public_key_hex" Datum.toText

/-- The JSON form of a configured key. -/
def toJson (k : TrustedKey) : Json :=
  .object [("authority_id", .text k.authorityId), ("public_key_hex", .text k.publicKeyHex)]

end TrustedKey

end FleetIdentity
