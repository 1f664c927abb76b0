import FleetIdentity.Octets

/-!
Elements of ASN.1 in octets: an identifier, a length, the content.

Reading takes definite lengths in any number of octets, as certificates in use have them. Writing
uses the shortest length.
-/

namespace FleetIdentity.Asn1

/-- What kind of element it is. -/
structure Identifier where
  /-- Universal, of an application, of the context, private. -/
  tagClass : Nat
  /-- The content is a sequence of elements. -/
  constructed : Bool
  number : Nat
  deriving DecidableEq, Repr

/-- An element with its content. -/
structure Element where
  identifier : Identifier
  content : Octets
  deriving DecidableEq, Repr

/-- The number of a universal tag. -/
inductive Tag where
  | boolean
  | integer
  | bitString
  | octetString
  | null
  | oid
  | utf8String
  | sequence
  | set
  | numericString
  | printableString
  | t61String
  | videotexString
  | ia5String
  | utcTime
  | generalizedTime
  | graphicString
  | visibleString
  | generalString
  | universalString
  | bmpString
  deriving DecidableEq, Repr

namespace Tag

/-- The number of the tag. -/
def number : Tag → Nat
  | boolean => 1
  | integer => 2
  | bitString => 3
  | octetString => 4
  | null => 5
  | oid => 6
  | utf8String => 12
  | sequence => 16
  | set => 17
  | numericString => 18
  | printableString => 19
  | t61String => 20
  | videotexString => 21
  | ia5String => 22
  | utcTime => 23
  | generalizedTime => 24
  | graphicString => 25
  | visibleString => 26
  | generalString => 27
  | universalString => 28
  | bmpString => 30

/-- The identifier octet of a universal element. -/
def octet (t : Tag) : UInt8 :=
  UInt8.ofNat (match t with
    | sequence | set => 0x20 + t.number
    | _ => t.number)

end Tag

/-- The digits of a tag number past thirty, five at most. -/
def longNumber? : (most : Nat) → (n : Nat) → Octets → Option (Nat × Octets)
  | 0, _, _ => none
  | _ + 1, _, [] => none
  | most + 1, n, x :: rest =>
    let n := n * 128 + x.toNat % 128
    if x.toNat < 128 then some (n, rest) else longNumber? most n rest

/-- The identifier that an octet stands for alone. -/
def Identifier.ofOctet (x : UInt8) : Identifier where
  tagClass := x.toNat / 64
  constructed := x.toNat / 32 % 2 == 1
  number := x.toNat % 32

/-- The identifier at the front. -/
def identifier? : Octets → Option (Identifier × Octets)
  | [] => none
  | x :: rest =>
    let tagClass := x.toNat / 64
    let constructed := x.toNat / 32 % 2 == 1
    if x.toNat % 32 = 31 then
      (longNumber? 5 0 rest).map fun (number, rest) => ({ tagClass, constructed, number }, rest)
    else some ({ tagClass, constructed, number := x.toNat % 32 }, rest)

/-- The definite length at the front: below 128 in one octet, else a count of octets and these. -/
def length? : Octets → Option (Nat × Octets)
  | [] => none
  | x :: rest =>
    if x.toNat < 128 then some (x.toNat, rest)
    else
      let count := x.toNat - 128
      let n := Octets.toNat (rest.take count)
      if count = 0 ∨ count = 127 ∨ rest.length < count ∨ 2 ^ 64 ≤ n then none
      else some (n, rest.drop count)

/-- The element at the front. -/
def element? (octets : Octets) : Option (Element × Octets) := do
  let (identifier, rest) ← identifier? octets
  let (length, rest) ← length? rest
  if rest.length < length then none
  else some ({ identifier, content := rest.take length }, rest.drop length)

/-- The content of the element at the front, when it has the number of a tag. -/
def expect? (tag : Tag) (octets : Octets) : Option (Octets × Octets) := do
  let (e, rest) ← element? octets
  if e.identifier.number = tag.number then some (e.content, rest) else none

/-- The content of the primitive element at the front, when it has the number of a tag. -/
def primitive? (tag : Tag) (octets : Octets) : Option (Octets × Octets) := do
  let (e, rest) ← element? octets
  if e.identifier.number = tag.number ∧ !e.identifier.constructed then some (e.content, rest)
  else none

/-- The octets in front of a rest that was left over. -/
def consumed (octets rest : Octets) : Octets :=
  octets.take (octets.length - rest.length)

/-- The items that a reader takes from the front, up to the first that it cannot. -/
def many {α : Type} (read : Octets → Option (α × Octets)) : (fuel : Nat) → Octets → List α × Octets
  | 0, octets => ([], octets)
  | fuel + 1, octets =>
    match read octets with
    | none => ([], octets)
    | some (a, rest) =>
      if rest.length < octets.length then
        let (more, rest) := many read fuel rest
        (a :: more, rest)
      else ([], octets)

/-- The items that a reader takes, if nothing is left over. -/
def all? {α : Type} (read : Octets → Option (α × Octets)) (octets : Octets) : Option (List α) :=
  match many read octets.length octets with
  | (items, []) => some items
  | _ => none

/-- The bits of a bit string of whole octets or not; unused bits are zero. -/
def bits? : Octets → Option Octets
  | [] => none
  | [unused] => if unused = 0 then some [] else none
  | unused :: bits =>
    if unused.toNat ≤ 7 ∧ (bits.getLastD 0).toNat % 2 ^ unused.toNat = 0 then some bits else none

/-- The bit string at the front. -/
def bitString? (octets : Octets) : Option (Octets × Octets) := do
  let (content, rest) ← primitive? .bitString octets
  return (← bits? content, rest)

/-- The length in the fewest octets. -/
def writeLength (n : Nat) : Octets :=
  if n < 128 then [UInt8.ofNat n]
  else UInt8.ofNat (128 + Octets.width n) :: Octets.ofNat (Octets.width n) n

/-- An element with an identifier octet. -/
def write (identifier : UInt8) (content : Octets) : Octets :=
  identifier :: writeLength content.length ++ content

/-- A universal element. -/
def writeTag (tag : Tag) (content : Octets) : Octets :=
  write tag.octet content

/-- A sequence of elements. -/
def sequence (parts : List Octets) : Octets :=
  writeTag .sequence parts.flatten

/-- The content of a non-negative integer: no needless zero octet, the first bit not set. -/
def unsigned (n : Nat) : Octets :=
  let octets := Octets.ofNat (Octets.width n) n
  if 128 ≤ (octets.headD 0).toNat then 0 :: octets else octets

/-- A non-negative integer. -/
def writeInteger (n : Nat) : Octets :=
  writeTag .integer (unsigned n)

/-- A bit string of whole octets. -/
def writeBits (octets : Octets) : Octets :=
  writeTag .bitString (0 :: octets)

end FleetIdentity.Asn1
