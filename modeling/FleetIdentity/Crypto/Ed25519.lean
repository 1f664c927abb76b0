import FleetIdentity.Crypto.Modular
import FleetIdentity.Crypto.Sha2

/-!
Ed25519 signatures on the twisted Edwards curve over the field of `2 ^ 255 - 19` elements.

A point is written as its second coordinate and the sign of the first. Reading is lenient: a second
coordinate past the field is reduced, and a first coordinate of zero may have the sign set. The
plain verification recomputes the commitment and compares its octets; the strict one also refuses
keys and commitments of small order.
-/

namespace FleetIdentity.Ed25519

/-- The order of the field. -/
def p : Nat := 2 ^ 255 - 19

/-- The order of the base point. -/
def order : Nat := 2 ^ 252 + 27742317777372353535851937790883648493

/-- The constant of the curve. -/
def d : Nat := 37095705934669439343138083508754565189542113879843219016388785533085940283555

/-- A square root of minus one. -/
def rootOfMinusOne : Nat := Modular.pow p 2 ((p - 1) / 4)

/-- A point in extended coordinates: `(x / z, y / z)` with `t / z` the product of the two. -/
structure Point where
  (x y z t : Nat)

/-- The neutral point. -/
def zero : Point := { x := 0, y := 1, z := 1, t := 0 }

/-- The sum of two points. -/
def add (a b : Point) : Point :=
  let s := Modular.sub p
  let m := s a.y a.x * s b.y b.x % p
  let n := (a.y + a.x) * (b.y + b.x) % p
  let c := a.t * 2 * d % p * b.t % p
  let w := a.z * 2 * b.z % p
  let e := s n m
  let f := s w c
  let g := (w + c) % p
  let h := (n + m) % p
  { x := e * f % p, y := g * h % p, z := f * g % p, t := e * h % p }

/-- The opposite of a point. -/
def neg (a : Point) : Point :=
  { a with x := Modular.sub p 0 a.x, t := Modular.sub p 0 a.t }

/-- Adds the low `bits` bits of `n` times `a` to `acc`. -/
def mulFrom : (bits n : Nat) → (a acc : Point) → Point
  | 0, _, _, acc => acc
  | bits + 1, n, a, acc => mulFrom bits (n / 2) (add a a) (if n % 2 = 1 then add acc a else acc)

/-- A multiple of a point. -/
def mul (n : Nat) (a : Point) : Point :=
  mulFrom (n.log2 + 1) n a zero

/-- The two points are the same. -/
def Point.same (a b : Point) : Bool :=
  a.x * b.z % p == b.x * a.z % p && a.y * b.z % p == b.y * a.z % p

/-- A point whose order divides eight. -/
def isSmallOrder (a : Point) : Bool :=
  (mul 8 a).same zero

/-- The point with second coordinate `y` and the given parity of the first. -/
def ofCoordinate? (y parity : Nat) : Option Point :=
  let y := y % p
  let u := Modular.sub p (y * y % p) 1
  let v := (d * (y * y % p) + 1) % p
  let x := u * Modular.pow p v 3 % p * Modular.pow p (u * Modular.pow p v 7) ((p - 5) / 8) % p
  let square := v * (x * x % p) % p
  let found :=
    if square = u then some x
    else if square = Modular.sub p 0 u then some (x * rootOfMinusOne % p)
    else none
  found.map fun x =>
    let x := if x % 2 = parity then x else Modular.sub p 0 x
    { x, y, z := 1, t := x * y % p }

/-- The point that 32 octets stand for. -/
def decompress? (octets : Octets) : Option Point :=
  if octets.length = 32 then
    let n := Octets.toNatLE octets
    ofCoordinate? (n % 2 ^ 255) (n / 2 ^ 255)
  else none

/-- The 32 octets of a point. -/
def compress (a : Point) : Octets :=
  let inverse := Modular.primeInverse p a.z
  let x := a.x * inverse % p
  let y := a.y * inverse % p
  Octets.ofNatLE 32 (y + 2 ^ 255 * (x % 2))

/-- The base point. -/
def base : Point :=
  (ofCoordinate? (4 * Modular.primeInverse p 5) 0).getD zero

/-- The SHA-512 digest as a number. -/
def hash (octets : Octets) : Nat :=
  Octets.toNatLE (Sha2.sha512.digest octets)

/-- The secret scalar and the nonce key that a seed stands for. -/
def expand (seed : Octets) : Nat × Octets :=
  let h := Sha2.sha512.digest seed
  let n := Octets.toNatLE (h.take 32)
  (n % 2 ^ 254 / 8 * 8 + 2 ^ 254, h.drop 32)

/-- The public key of a seed. -/
def publicKey (seed : Octets) : Octets :=
  compress (mul (expand seed).1 base)

/-- The signature of a message. -/
def sign (seed message : Octets) : Octets :=
  let (scalar, nonceKey) := expand seed
  let key := compress (mul scalar base)
  let r := hash (nonceKey ++ message) % order
  let commitment := compress (mul r base)
  let k := hash (commitment ++ key ++ message) % order
  commitment ++ Octets.ofNatLE 32 ((r + k * scalar) % order)

theorem length_sign (seed message : Octets) : (sign seed message).length = 64 := by
  rw [sign, List.length_append, compress, Octets.length_ofNatLE, Octets.length_ofNatLE]

/-- The commitment that a signature with scalar `s` should have. -/
def commitment (key commitment message : Octets) (point : Point) (s : Nat) : Octets :=
  let k := hash (commitment ++ key ++ message) % order
  compress (add (mul s base) (mul k (neg point)))

/-- The signature is the one that the key's owner makes, for any key that is a point. -/
def verify (key message signature : Octets) : Bool :=
  match decompress? key with
  | none => false
  | some point =>
    let r := signature.take 32
    let s := Octets.toNatLE (signature.drop 32)
    signature.length == 64 && s < order && commitment key r message point s == r

/-- The signature verifies, and neither the key nor the commitment is of small order. -/
def verifyStrict (key message signature : Octets) : Bool :=
  match decompress? key, decompress? (signature.take 32) with
  | some point, some r =>
    !isSmallOrder point && !isSmallOrder r && verify key message signature
  | _, _ => false

end FleetIdentity.Ed25519
