import FleetIdentity.Encoding.Base64
import FleetIdentity.Text.Blank
import FleetIdentity.Text.Utf8

/-!
PEM blocks: octets in Base64 between two marked lines.

Reading takes the first block of a document. A marker is looked for without going back: after a part
of it has matched and the next octet has not, the search goes on behind that octet. The block may
start with headers, set off by an empty line. Writing uses lines of 64 symbols.
-/

namespace FleetIdentity

/-- A block: what it says it is, and its octets. -/
structure PemBlock where
  label : String
  content : Octets
  deriving DecidableEq

namespace Pem

/-- The octets before a marker and those after it, when `left` is what is still to match of it and
`before` are the octets passed, the last one first. -/
def splitFrom? (marker : Octets) : (left before : Octets) → Octets → Option (Octets × Octets)
  | [], before, rest => some ((before.drop marker.length).reverse, rest)
  | _ :: _, _, [] => none
  | m :: left, before, x :: rest =>
    splitFrom? marker (if x = m then left else marker) (x :: before) rest

/-- The octets before a marker and those after it. -/
def splitAt? (marker : String) (octets : Octets) : Option (Octets × Octets) :=
  splitFrom? (Utf8.ofString marker) (Utf8.ofString marker) [] octets

/-- Space between the parts of a block. -/
def isSpace (x : UInt8) : Bool :=
  x == 0x20 || x == 0x09 || x == 0x0A || x == 0x0D

/-- The headers and the data of a block. -/
def splitHeaders (body : Octets) : Octets × Octets :=
  ((splitAt? "\n\n" body) <|> (splitAt? "\r\n\r\n" body)).getD ([], body)

/-- The lines of a text; a last one that is empty is none. -/
def lines (text : String) : List String :=
  match (text.splitOn "\n").reverse with
  | "" :: rest => rest.reverse
  | all => all.reverse

/-- A label is not empty. -/
def label? (octets : Octets) : Option String := do
  let label ← Utf8.toString? octets
  if label.isEmpty then none else some label

/-- The first block of a document. -/
def parse? (octets : Octets) : Option PemBlock := do
  let (_, rest) ← splitAt? "-----BEGIN " octets
  let (first, rest) ← splitAt? "-----" rest
  let (body, rest) ← splitAt? "-----END " (rest.dropWhile isSpace)
  let (last, _) ← splitAt? "-----" rest
  let label ← label? first
  if (← label? last) ≠ label then none
  let (headers, data) := splitHeaders body
  let headers ← Utf8.toString? headers
  let data ← Utf8.decode? data
  let content ← Base64.decode? (data.filter fun c => !isBlankChar c)
  if (lines headers).all (·.contains ':') then some { label, content } else none

/-- The symbols in lines of 64, each with its newline. -/
def wrap (fuel : Nat) (symbols : List Char) : List Char :=
  match fuel, symbols with
  | 0, _ | _, [] => []
  | fuel + 1, symbols => symbols.take 64 ++ '\n' :: wrap fuel (symbols.drop 64)

/-- The text of a block. -/
def write (block : PemBlock) : String :=
  let symbols := Base64.encode block.content
  s!"-----BEGIN {block.label}-----\n" ++ String.ofList (wrap symbols.length symbols) ++
    s!"-----END {block.label}-----\n"

/-- The label of certificates. -/
def certificateLabel : String := "CERTIFICATE"

/-- The label of private keys. -/
def privateKeyLabel : String := "PRIVATE KEY"

/-- A certificate as a block. -/
def encodeCertificate (der : Octets) : String :=
  write { label := certificateLabel, content := der }

/-- A private key as a block. -/
def encodeKey (der : Octets) : String :=
  write { label := privateKeyLabel, content := der }

end Pem

end FleetIdentity
