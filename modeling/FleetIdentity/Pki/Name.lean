import FleetIdentity.Asn1.Element
import FleetIdentity.Asn1.Oid
import FleetIdentity.Encoding.Hex
import FleetIdentity.Text.Utf8

/-!
Distinguished names: who a certificate is about and who signed it.

A name is a sequence of sets of attributes, nearly always sets of one. Its text puts the sets after
one another and escapes nothing, so that two names may have the same text.
-/

namespace FleetIdentity

/-- An attribute of a name: its type and a value of any kind. -/
structure NameAttribute where
  type : Oid
  value : Asn1.Element
  deriving DecidableEq, Repr

/-- The sets of attributes of a name in their order. -/
abbrev DistinguishedName := List (List NameAttribute)

namespace NameAttribute

/-- The short names of the attribute types that are usual in names. The registry behind the texts of
names has more entries, for rarer attributes and for what is no attribute (object classes,
algorithms, extensions). They are left out, and a type among them is called by its arcs. -/
def shortNames : List (Oid × String) := [
  (Oid.directory 3, "CN"),
  (Oid.directory 6, "C"),
  (Oid.directory 7, "L"),
  (Oid.directory 8, "ST"),
  (Oid.directory 10, "O"),
  (Oid.directory 11, "OU"),
  ([0x09, 0x92, 0x26, 0x89, 0x93, 0xF2, 0x2C, 0x64, 0x01, 0x19], "DC"),
  ([0x2A, 0x86, 0x48, 0x86, 0xF7, 0x0D, 0x01, 0x09, 0x01], "Email"),
  (Oid.directory 5, "serialNumber"),
  (Oid.directory 12, "title"),
  (Oid.directory 42, "givenName"),
  (Oid.directory 4, "surname"),
  (Oid.directory 9, "streetAddress"),
  (Oid.directory 17, "postalCode"),
  (Oid.directory 46, "dnQualifier"),
  (Oid.directory 44, "generationQualifier"),
  (Oid.directory 43, "initials"),
  ([0x09, 0x92, 0x26, 0x89, 0x93, 0xF2, 0x2C, 0x64, 0x01, 0x01], "uid"),
  (Oid.directory 15, "businessCategory"),
  (Oid.directory 41, "name"),
  (Oid.directory 13, "description")]

/-- How the type is called in the text of a name. -/
def typeText (a : NameAttribute) : String :=
  (shortNames.lookup a.type).getD s!"OID({a.type.text})"

/-- The value has the number of one of the given tags. -/
def hasTag (a : NameAttribute) (tags : List Asn1.Tag) : Bool :=
  tags.any (·.number == a.value.identifier.number)

/-- The tags of strings whose octets are taken for UTF-8. -/
def octetStrings : List Asn1.Tag :=
  [.numericString, .visibleString, .printableString, .generalString, .graphicString, .t61String,
    .videotexString, .utf8String, .ia5String]

/-- The tags of strings that a name can be looked up by. -/
def plainStrings : List Asn1.Tag :=
  [.numericString, .printableString, .utf8String, .ia5String]

/-- The units of sixteen bits in octets. -/
def units? : Octets → Option (List Nat)
  | [] => some []
  | [_] => none
  | a :: b :: rest => (units? rest).map ((a.toNat * 256 + b.toNat) :: ·)

/-- The characters of units of sixteen bits; surrogates stand in pairs. -/
def ofUnits? : List Nat → Option (List Char)
  | [] => some []
  | n :: rest =>
    if 0xD800 ≤ n ∧ n < 0xDC00 then
      match rest with
      | m :: rest =>
        if 0xDC00 ≤ m ∧ m < 0xE000 then
          (ofUnits? rest).map (Char.ofNat (0x10000 + (n - 0xD800) * 0x400 + (m - 0xDC00)) :: ·)
        else none
      | [] => none
    else if 0xDC00 ≤ n ∧ n < 0xE000 then none
    else (ofUnits? rest).map (Char.ofNat n :: ·)

/-- The text of the value, if its octets make sense. -/
def valueText? (a : NameAttribute) : Option String :=
  if a.hasTag octetStrings then Utf8.toString? a.value.content
  else if a.hasTag [.bmpString] then
    ((units? a.value.content).bind ofUnits?).map String.ofList
  else some (Hex.upperText a.value.content)

/-- The value as a name to look up, for the common kinds of string. -/
def plainText? (a : NameAttribute) : Option String :=
  if a.hasTag plainStrings then Utf8.toString? a.value.content else none

/-- Type and value in one text. -/
def text? (a : NameAttribute) : Option String :=
  a.valueText?.map fun value => s!"{a.typeText}={value}"

/-- The attribute at the front. -/
def read? (octets : Octets) : Option (NameAttribute × Octets) := do
  let (content, rest) ← Asn1.expect? .sequence octets
  let (type, content) ← Asn1.primitive? .oid content
  let (value, _) ← Asn1.element? content
  return ({ type, value }, rest)

/-- The octets of the attribute. -/
def write (a : NameAttribute) : Octets :=
  Asn1.sequence [
    Asn1.writeTag .oid a.type,
    Asn1.write (UInt8.ofNat a.value.identifier.number) a.value.content]

/-- An attribute with a text. -/
def ofText (type : Oid) (text : String) : NameAttribute :=
  { type
    value := {
      identifier := { tagClass := 0, constructed := false, number := Asn1.Tag.utf8String.number }
      content := Utf8.ofString text } }

end NameAttribute

namespace DistinguishedName

/-- The set of attributes at the front, one at least. -/
def readSet? (octets : Octets) : Option (List NameAttribute × Octets) := do
  let (content, rest) ← Asn1.expect? .set octets
  match Asn1.many NameAttribute.read? content.length content with
  | ([], _) => none
  | (attributes, _) => some (attributes, rest)

/-- The name at the front; sets that cannot be read end it. -/
def read? (octets : Octets) : Option (DistinguishedName × Octets) := do
  let (content, rest) ← Asn1.expect? .sequence octets
  return ((Asn1.many readSet? content.length content).1, rest)

/-- The octets of a name. -/
def write (name : DistinguishedName) : Octets :=
  Asn1.sequence (name.map fun attributes =>
    Asn1.writeTag .set (attributes.map NameAttribute.write).flatten)

/-- The text of a set of attributes. -/
def setText? (attributes : List NameAttribute) : Option String :=
  (attributes.mapM NameAttribute.text?).map (String.intercalate " + ")

/-- The text of a name, if all its values have one. -/
def text? (name : DistinguishedName) : Option String :=
  (name.mapM setText?).map (String.intercalate ", ")

/-- The text of a name, or a remark in its place. -/
def text (name : DistinguishedName) : String :=
  (text? name).getD "<X509Error: Invalid X.509 name>"

/-- The first attribute of a type. -/
def first? (name : DistinguishedName) (type : Oid) : Option NameAttribute :=
  name.flatten.find? (·.type == type)

/-- The name of attributes that each stand alone. -/
def ofAttributes (attributes : List NameAttribute) : DistinguishedName :=
  attributes.map fun a => [a]

end DistinguishedName

end FleetIdentity
