import FleetIdentity.Crypto.Modular
import FleetIdentity.Octets

/-!
The elliptic curves P-256 and P-384: `y² = x³ - 3x + b` over a prime field.

Points are held in Jacobian coordinates, the point at infinity with third coordinate zero. The
octets of a point are the uncompressed form: the octet 4 and both coordinates.
-/

namespace FleetIdentity.Weierstrass

/-- A curve with its base point and the order of that point. -/
structure Curve where
  octets : Nat
  p : Nat
  b : Nat
  order : Nat
  baseX : Nat
  baseY : Nat
  deriving DecidableEq

/-- The curve P-256. -/
def p256 : Curve where
  octets := 32
  p := 0xffffffff00000001000000000000000000000000ffffffffffffffffffffffff
  b := 0x5ac635d8aa3a93e7b3ebbd55769886bc651d06b0cc53b0f63bce3c3e27d2604b
  order := 0xffffffff00000000ffffffffffffffffbce6faada7179e84f3b9cac2fc632551
  baseX := 0x6b17d1f2e12c4247f8bce6e563a440f277037d812deb33a0f4a13945d898c296
  baseY := 0x4fe342e2fe1a7f9b8ee7eb4a7c0f9e162bce33576b315ececbb6406837bf51f5

/-- The curve P-384. -/
def p384 : Curve where
  octets := 48
  p :=
  0xfffffffffffffffffffffffffffffffffffffffffffffffffffffffffffffffeffffffff0000000000000000ffffffff
  b :=
  0xb3312fa7e23ee7e4988e056be3f82d19181d9c6efe8141120314088f5013875ac656398d8a2ed19d2a85c8edd3ec2aef
  order :=
  0xffffffffffffffffffffffffffffffffffffffffffffffffc7634d81f4372ddf581a0db248b0a77aecec196accc52973
  baseX :=
  0xaa87ca22be8b05378eb1c71ef320ad746e1d3b628ba79b9859f741e082542a385502f25dbf55296c3a545e3872760ab7
  baseY :=
  0x3617de4a96262c6f5d9e98bf9292dc29f8f41dbd289a147ce9da3113b5f0b8c00a60b1ce1d7e819d7a431d7c90ea0e5f

/-- A point `(x / z², y / z³)`, or the point at infinity when `z` is zero. -/
structure Point where
  (x y z : Nat)

/-- The point at infinity. -/
def infinity : Point := { x := 1, y := 1, z := 0 }

namespace Curve

/-- The base point. -/
def base (c : Curve) : Point := { x := c.baseX, y := c.baseY, z := 1 }

/-- Twice a point. -/
def double (c : Curve) (a : Point) : Point :=
  let s := Modular.sub c.p
  let delta := a.z * a.z % c.p
  let gamma := a.y * a.y % c.p
  let beta := a.x * gamma % c.p
  let alpha := 3 * (s a.x delta * (a.x + delta) % c.p) % c.p
  let x := s (alpha * alpha) (8 * beta)
  let z := s (s ((a.y + a.z) * (a.y + a.z)) gamma) delta
  { x, y := s (alpha * s (4 * beta) x) (8 * (gamma * gamma % c.p)), z }

/-- The sum of two points. -/
def add (c : Curve) (a b : Point) : Point :=
  if a.z = 0 then b
  else if b.z = 0 then a
  else
    let s := Modular.sub c.p
    let z₁ := a.z * a.z % c.p
    let z₂ := b.z * b.z % c.p
    let u₁ := a.x * z₂ % c.p
    let u₂ := b.x * z₁ % c.p
    let s₁ := a.y * b.z % c.p * z₂ % c.p
    let s₂ := b.y * a.z % c.p * z₁ % c.p
    let h := s u₂ u₁
    let r := s s₂ s₁
    if h = 0 then if r = 0 then c.double a else infinity
    else
      let hh := h * h % c.p
      let hhh := h * hh % c.p
      let v := u₁ * hh % c.p
      let x := s (s (r * r) hhh) (2 * v)
      { x, y := s (r * s v x) (s₁ * hhh), z := h * (a.z * b.z % c.p) % c.p }

/-- Adds the low `bits` bits of `n` times `a` to `acc`. -/
def mulFrom (c : Curve) : (bits n : Nat) → (a acc : Point) → Point
  | 0, _, _, acc => acc
  | bits + 1, n, a, acc =>
    mulFrom c bits (n / 2) (c.double a) (if n % 2 = 1 then c.add acc a else acc)

/-- A multiple of a point. -/
def mul (c : Curve) (n : Nat) (a : Point) : Point :=
  c.mulFrom (n.log2 + 1) n a infinity

/-- The coordinates of a point that is not at infinity. -/
def coordinates (c : Curve) (a : Point) : Nat × Nat :=
  let inverse := Modular.primeInverse c.p a.z
  let square := inverse * inverse % c.p
  (a.x * square % c.p, a.y * square % c.p * inverse % c.p)

/-- The uncompressed octets of a point. -/
def encode (c : Curve) (a : Point) : Octets :=
  let (x, y) := c.coordinates a
  4 :: Octets.ofNat c.octets x ++ Octets.ofNat c.octets y

/-- The point on the curve that uncompressed octets stand for. -/
def decode? (c : Curve) : Octets → Option Point
  | 4 :: rest =>
    let x := Octets.toNat (rest.take c.octets)
    let y := Octets.toNat (rest.drop c.octets)
    if rest.length = 2 * c.octets ∧ x < c.p ∧ y < c.p ∧
        y * y % c.p = Modular.sub c.p (x * x % c.p * x + c.b) (3 * x) then
      some { x, y, z := 1 }
    else none
  | _ => none

end Curve

end FleetIdentity.Weierstrass
