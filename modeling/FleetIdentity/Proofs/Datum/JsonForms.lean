import FleetIdentity.Proofs.Datum.Records
import FleetIdentity.Proofs.Settings.Values
import FleetIdentity.Registry.Enrollment

/-!
# The JSON forms of the data model

What is written of a status, of credentials, of a trusted key or of settings is read as the same
value. Of an organization, and so of an enrollment, all but the key of the authority is written, so
that it is read with an empty one. Either way it is written as the same text again.
-/

namespace FleetIdentity

open RecordReader

/-! ### One type after the other -/

theorem Status.ofDatum_toJson (s : Status) : ofDatum s.toJson.toDatum = .ok s := by
  cases s <;> rfl

theorem Device.ofDatum_toJson (d : Device) : ofDatum d.toJson.toDatum = .ok d := by
  obtain ⟨brand, model, serialNumber, storeId, deviceKey⟩ := d
  refine read_object (by simp) ?_
  refine .seq (.seq (.seq (.seq (.map ?_) ?_) ?_) ?_) ?_
  all_goals exact .field rfl rfl

theorem Credentials.ofDatum_toJson (c : Credentials) : ofDatum c.toJson.toDatum = .ok c := by
  obtain ⟨privateKey, certificate, mqttUrl, mqttPort⟩ := c
  refine read_object (by simp) ?_
  refine .seq (.seq (.seq (.map ?_) ?_) ?_) ?_
  all_goals exact .field rfl rfl

theorem TrustedKey.read_toJson (written : Notation) (k : TrustedKey) :
    reader.read written k.toJson.toDatum = .ok k := by
  obtain ⟨authorityId, publicKeyHex⟩ := k
  refine read_object (by simp) ?_
  exact .seq (.map (.field rfl rfl)) (.field rfl rfl)

theorem Organization.ofDatum_toJson (o : Organization) :
    ofDatum o.toJson.toDatum = .ok o.redacted := by
  obtain ⟨id, name, country, rootKey, rootCert⟩ := o
  refine read_object (by simp) ?_
  refine .seq (.seq (.seq (.seq (.map ?_) ?_) ?_) (.absent rfl)) ?_
  all_goals exact .field rfl rfl

theorem Enrollment.ofDatum_toJson (e : Enrollment) :
    ofDatum e.toJson.toDatum = .ok e.redacted := by
  obtain ⟨id, device, credentials, organization, status, deviceData⟩ := e
  refine read_object (by simp) ?_
  refine .seq (.seq (.seq (.seq (.seq (.map (.field rfl rfl)) (.field rfl ?_)) (.field rfl ?_))
    (.field rfl ?_)) (.field rfl ?_)) (.field rfl rfl)
  · exact device.ofDatum_toJson
  · exact credentials.ofDatum_toJson
  · exact organization.ofDatum_toJson
  · exact status.ofDatum_toJson

/-! ### Settings -/

theorem Named.ofDatum_name {α : Type} [Named α] [LawfulNamed α] (written : Notation) (a : α) :
    Named.ofDatum α written (Json.text (Named.name a)).toDatum = .ok a := by
  have known : (choices : List (String × α)).lookup (name a) = some a :=
    (LawfulNamed.lookup_eq_some_iff (name a) a).2 rfl
  rw [Json.toDatum, Named.ofDatum, Datum.toChoice, Datum.chosen, known]

theorem Settings.portOfDatum_toNat (port : UInt16) :
    portOfDatum (Json.integer port.toNat).toDatum = .ok port := by
  have bound := port.toNat_lt
  rw [Json.toDatum_integer (by omega) (by omega), portOfDatum, Datum.toInteger,
    if_pos (by omega)]
  show Except.ok (UInt16.ofNat (port.toNat : Int).toNat) = _
  rw [Int.toNat_natCast, UInt16.ofNat_toNat]

theorem Datum.toListOf_map {α : Type} {item : Datum → Except DatumFault α} {write : α → Json}
    (reads : ∀ a, item (write a).toDatum = .ok a) (values : List α) :
    toListOf item (Json.list (values.map write)).toDatum = .ok values := by
  rw [Json.toDatum, Json.toData_eq_map, toListOf, List.map_map, List.mapM_map]
  induction values with
  | nil => rfl
  | cons a values ih =>
    rw [List.mapM_cons, ih, Function.comp_apply, Function.comp_apply, reads]
    rfl

theorem Settings.ofDatum_toJson (written : Notation) (s : Settings) :
    ofDatum written s.toJson.toDatum = .ok s := by
  obtain ⟨listenPort, driver, datasource, mqttUrl, mqttPort, certsDir, issuance, keyAlgorithm,
    logLevel, logFormat, trustedKeys⟩ := s
  refine read_object (by simp) ?_
  refine .seq (.seq (.seq (.seq (.seq (.seq (.seq (.seq (.seq (.seq (.map (.field rfl ?_))
    (.field rfl ?_)) (.field rfl rfl)) (.field rfl rfl)) (.field rfl rfl)) (.field rfl rfl))
    (.field rfl ?_)) (.field rfl ?_)) (.field rfl rfl)) (.field rfl ?_)) (.field rfl ?_)
  · exact portOfDatum_toNat listenPort
  · exact Named.ofDatum_name written driver
  · exact Named.ofDatum_name written issuance
  · exact Named.ofDatum_name written keyAlgorithm
  · exact Named.ofDatum_name written logFormat
  · exact Datum.toListOf_map (TrustedKey.read_toJson written) trustedKeys

/-! ### Texts -/

namespace Json

/-- The text of a value is read as what is kept of it. The text of whatever was read is read again,
and what was read then is written as the same text. -/
def RoundTrips {α : Type} (write : α → Json) (read : Datum → Except DatumFault α)
    (kept : α → α) : Prop :=
  (∀ a, read (JsonReader.readAll (Utf8.ofString (write a).toText)) = .ok (kept a)) ∧
    ∀ octets a, read (JsonReader.readAll octets) = .ok a →
      ∃ b, read (JsonReader.readAll (Utf8.ofString (write a).toText)) = .ok b ∧
        (write b).toText = (write a).toText

theorem roundTrips_of {α : Type} {write : α → Json} {read : Datum → Except DatumFault α}
    {kept : α → α} (reads : ∀ a, read (write a).toDatum = .ok (kept a))
    (writes : ∀ a, write (kept a) = write a) : RoundTrips write read kept := by
  have text (a : α) :
      read (JsonReader.readAll (Utf8.ofString (write a).toText)) = .ok (kept a) := by
    rw [readAll_toText, reads]
  exact ⟨text, fun _ a _ => ⟨kept a, text a, by rw [writes]⟩⟩

/-- Statuses, credentials, trusted keys and settings survive their JSON texts; organizations and
enrollments do without the key of the authority; and all are written as the same text again. -/
theorem roundTrips_dataModel :
    RoundTrips Status.toJson Status.ofDatum id ∧
    RoundTrips Credentials.toJson Credentials.ofDatum id ∧
    RoundTrips TrustedKey.toJson (TrustedKey.reader.read .json) id ∧
    RoundTrips Settings.toJson (Settings.ofDatum .json) id ∧
    RoundTrips Organization.toJson Organization.ofDatum (fun o => { o with rootKey := "" }) ∧
    RoundTrips Enrollment.toJson Enrollment.ofDatum
      (fun e => { e with organization := { e.organization with rootKey := "" } }) :=
  ⟨roundTrips_of Status.ofDatum_toJson fun _ => rfl,
    roundTrips_of Credentials.ofDatum_toJson fun _ => rfl,
    roundTrips_of (TrustedKey.read_toJson .json) fun _ => rfl,
    roundTrips_of (Settings.ofDatum_toJson .json) fun _ => rfl,
    roundTrips_of Organization.ofDatum_toJson fun _ => rfl,
    roundTrips_of Enrollment.ofDatum_toJson fun _ => rfl⟩

end Json

end FleetIdentity
