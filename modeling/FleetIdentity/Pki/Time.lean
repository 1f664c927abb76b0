import FleetIdentity.Asn1.Element

/-!
Moments in certificates, as seconds since the beginning of 1970.

There are two forms: one with two digits of the year, which may leave out the seconds and may give a
distance from universal time, and one with four digits, which ends in Z and may have a fraction.
-/

namespace FleetIdentity.CertificateTime

/-- A year that February has 29 days in. -/
def isLeap (year : Nat) : Bool :=
  year % 4 == 0 && (year % 100 != 0 || year % 400 == 0)

/-- The number of days of a month. -/
def daysOf (year month : Nat) : Nat :=
  if month = 2 then (if isLeap year then 29 else 28)
  else if month = 4 ∨ month = 6 ∨ month = 9 ∨ month = 11 then 30
  else 31

/-- The days from the first of March of the year zero. -/
def dayNumber (year month day : Nat) : Int :=
  let y : Int := if month ≤ 2 then year - 1 else year
  let m : Int := (month + 9) % 12
  365 * y + y.fdiv 4 - y.fdiv 100 + y.fdiv 400 + (153 * m + 2) / 5 + (day - 1)

/-- The seconds from the beginning of 1970 to a moment of universal time. -/
def seconds (year month day hour minute second : Nat) : Int :=
  (dayNumber year month day - dayNumber 1970 1 1) * 86400 + hour * 3600 + minute * 60 + second

/-- The number of two digits. -/
def pair? : Octets → Option (Nat × Octets)
  | a :: b :: rest =>
    let digit (x : UInt8) := 0x30 ≤ x.toNat && x.toNat ≤ 0x39
    if digit a && digit b then some ((a.toNat - 48) * 10 + (b.toNat - 48), rest) else none
  | _ => none

/-- The seconds, if they are there. -/
def optionalPair? (octets : Octets) : Option (Nat × Octets) :=
  match octets with
  | _ :: _ :: _ => pair? octets
  | _ => some (0, octets)

/-- The distance from universal time in seconds. -/
def offset? : Octets → Option Int
  | [0x5A] => some 0
  | sign :: rest => do
    let (hours, rest) ← pair? rest
    let (minutes, rest) ← pair? rest
    if rest ≠ [] ∨ 25 < hours ∨ 59 < minutes then none
    let distance : Int := hours * 3600 + minutes * 60
    if sign = 0x2B then some distance
    else if sign = 0x2D then some (if hours = 0 then distance else -distance)
    else none
  | [] => none

/-- A fraction of up to three digits after a point, and the octets after it. -/
def dropFraction? : Octets → Option Octets
  | 0x2E :: rest =>
    let digits := rest.takeWhile fun x => 0x30 ≤ x.toNat && x.toNat ≤ 0x39
    if digits.length ≤ 3 then some (rest.drop digits.length) else none
  | rest => some rest

/-- The moment of the day that numbers stand for. -/
def moment? (year month day hour minute second : Nat) : Option Int :=
  if 1 ≤ month ∧ month ≤ 12 ∧ 1 ≤ day ∧ day ≤ daysOf year month ∧ hour ≤ 23 ∧ minute ≤ 59 ∧
      second ≤ 59 then
    some (seconds year month day hour minute second)
  else none

/-- The moment with two digits of the year. -/
def short? (octets : Octets) : Option Int := do
  let (year, rest) ← pair? octets
  let (month, rest) ← pair? rest
  let (day, rest) ← pair? rest
  let (hour, rest) ← pair? rest
  let (minute, rest) ← pair? rest
  let (second, rest) ← optionalPair? rest
  let year := if 50 ≤ year then 1900 + year else 2000 + year
  let moment ← moment? year month day hour minute second
  return moment - (← offset? rest)

/-- The moment with four digits of the year. -/
def long? (octets : Octets) : Option Int := do
  let (century, rest) ← pair? octets
  let (year, rest) ← pair? rest
  let (month, rest) ← pair? rest
  let (day, rest) ← pair? rest
  let (hour, rest) ← pair? rest
  let (minute, rest) ← pair? rest
  let (second, rest) ← optionalPair? rest
  if (← dropFraction? rest) ≠ [0x5A] then none
  moment? (100 * century + year) month day hour minute second

/-- The moment at the front. -/
def read? (octets : Octets) : Option (Int × Octets) := do
  let (e, rest) ← Asn1.element? octets
  if e.identifier.number = Asn1.Tag.utcTime.number then return (← short? e.content, rest)
  else if e.identifier.number = Asn1.Tag.generalizedTime.number then
    return (← long? e.content, rest)
  else none

/-- Two digits. -/
def writePair (n : Nat) : Octets :=
  [UInt8.ofNat (48 + n / 10 % 10), UInt8.ofNat (48 + n % 10)]

/-- The year, month and day of a day counted from the beginning of 1970. -/
def civil (days : Int) : Nat × Nat × Nat :=
  let z := days + dayNumber 1970 1 1
  let era := z.fdiv 146097
  let dayOfEra := (z - era * 146097).toNat
  let yearOfEra := (dayOfEra - dayOfEra / 1460 + dayOfEra / 36524 - dayOfEra / 146096) / 365
  let dayOfYear := dayOfEra - (365 * yearOfEra + yearOfEra / 4 - yearOfEra / 100)
  let m := (5 * dayOfYear + 2) / 153
  let day := dayOfYear - (153 * m + 2) / 5 + 1
  let month := if m < 10 then m + 3 else m - 9
  let year := yearOfEra + (era * 400).toNat + (if month ≤ 2 then 1 else 0)
  (year, month, day)

/-- The octets of a moment: two digits of the year from 1950 to 2049, four otherwise. -/
def write (moment : Int) : Octets :=
  let (year, month, day) := civil (moment.fdiv 86400)
  let time := (moment.fmod 86400).toNat
  let rest := writePair month ++ writePair day ++ writePair (time / 3600) ++
    writePair (time / 60 % 60) ++ writePair (time % 60) ++ [0x5A]
  if 1950 ≤ year ∧ year < 2050 then Asn1.writeTag .utcTime (writePair year ++ rest)
  else Asn1.writeTag .generalizedTime (writePair (year / 100) ++ writePair year ++ rest)

end FleetIdentity.CertificateTime
