import FleetIdentity.Crypto.Word

/-!
The SHA-2 hash functions SHA-256, SHA-384 and SHA-512.

The three differ in the width of the word, in the amounts of the rotations, in the starting state
and in how much of the last state is the digest: one record says all of it, and one function hashes.
The constants are the leading fraction bits of roots of primes and are computed as such.
-/

namespace FleetIdentity.Sha2

/-- The largest number below `2 ^ bits` above `root` whose `k`-th power is at most `n`. -/
def rootFrom (k n : Nat) : (bits root : Nat) → Nat
  | 0, root => root
  | bits + 1, root =>
    let higher := root + 2 ^ bits
    rootFrom k n bits (if higher ^ k ≤ n then higher else root)

/-- The first `bits` bits of the fraction of the `k`-th root of `p`, for roots below 32. -/
def rootFraction (k bits p : Nat) : Nat :=
  rootFrom k (p * 2 ^ (k * bits)) (bits + 5) 0 % 2 ^ bits

/-- A prime number, by trial division. -/
def isPrime (n : Nat) : Bool :=
  2 ≤ n && (List.range n).all fun d => d < 2 || n % d != 0

/-- The first eighty primes. -/
def primes : List Nat :=
  (List.range 410).filter isPrime

/-- What distinguishes one hash function of the family. -/
structure Variant where
  bits : Nat
  /-- The three rotations of the two functions that mix the state. -/
  large : (Nat × Nat × Nat) × (Nat × Nat × Nat)
  /-- Two rotations and a shift of the two functions that extend the message. -/
  small : (Nat × Nat × Nat) × (Nat × Nat × Nat)
  roundKeys : List Nat
  initial : List Nat
  digestOctets : Nat

/-- SHA-256. -/
def sha256 : Variant where
  bits := 32
  large := ((2, 13, 22), (6, 11, 25))
  small := ((7, 18, 3), (17, 19, 10))
  roundKeys := (primes.take 64).map (rootFraction 3 32)
  initial := (primes.take 8).map (rootFraction 2 32)
  digestOctets := 32

/-- SHA-512. -/
def sha512 : Variant where
  bits := 64
  large := ((28, 34, 39), (14, 18, 41))
  small := ((1, 8, 7), (19, 61, 6))
  roundKeys := primes.map (rootFraction 3 64)
  initial := (primes.take 8).map (rootFraction 2 64)
  digestOctets := 64

/-- SHA-384: SHA-512 from another state, cut short. -/
def sha384 : Variant :=
  { sha512 with
    initial := ((primes.drop 8).take 8).map (rootFraction 2 64)
    digestOctets := 48 }

/-- Three rotations of a word, added without carry. -/
def Variant.rotations (v : Variant) (amounts : Nat × Nat × Nat) (x : Nat) : Nat :=
  Word.rotateRight v.bits x amounts.1 ^^^ Word.rotateRight v.bits x amounts.2.1 ^^^
    Word.rotateRight v.bits x amounts.2.2

/-- Two rotations and a shift of a word, added without carry. -/
def Variant.rotationsShift (v : Variant) (amounts : Nat × Nat × Nat) (x : Nat) : Nat :=
  Word.rotateRight v.bits x amounts.1 ^^^ Word.rotateRight v.bits x amounts.2.1 ^^^
    (x >>> amounts.2.2)

/-- The words of the message schedule: each leaves the window of sixteen, and a new one enters. -/
def Variant.schedule (v : Variant) : (count : Nat) → (window : List Nat) → List Nat
  | 0, _ => []
  | count + 1, window =>
    let pick := fun i => window.getD i 0
    let next := (v.rotationsShift v.small.2 (pick 14) + pick 9 +
      v.rotationsShift v.small.1 (pick 1) + pick 0) % 2 ^ v.bits
    pick 0 :: v.schedule count (window.drop 1 ++ [next])

/-- The eight words of the state. -/
structure State where
  (a b c d e f g h : Nat)

/-- One round with a key and a schedule word. -/
def Variant.round (v : Variant) (s : State) (key word : Nat) : State :=
  let choice := (s.e &&& s.f) ^^^ (Word.complement v.bits s.e &&& s.g)
  let majority := (s.a &&& s.b) ^^^ (s.a &&& s.c) ^^^ (s.b &&& s.c)
  let t₁ := s.h + v.rotations v.large.2 s.e + choice + key + word
  let t₂ := v.rotations v.large.1 s.a + majority
  { a := (t₁ + t₂) % 2 ^ v.bits, b := s.a, c := s.b, d := s.c
    e := (s.d + t₁) % 2 ^ v.bits, f := s.e, g := s.f, h := s.g }

/-- The state after one block. -/
def Variant.compress (v : Variant) (s : State) (block : Octets) : State :=
  let words := (Word.blocks (v.bits / 8) block).map Octets.toNat
  let keys := v.roundKeys.zip (v.schedule v.roundKeys.length words)
  let t := keys.foldl (fun t (key, word) => v.round t key word) s
  let add := fun x y => (x + y) % 2 ^ v.bits
  { a := add s.a t.a, b := add s.b t.b, c := add s.c t.c, d := add s.d t.d
    e := add s.e t.e, f := add s.f t.f, g := add s.g t.g, h := add s.h t.h }

/-- The digest of a message. -/
def Variant.digest (v : Variant) (message : Octets) : Octets :=
  let start := fun i => v.initial.getD i 0
  let s : State :=
    { a := start 0, b := start 1, c := start 2, d := start 3
      e := start 4, f := start 5, g := start 6, h := start 7 }
  let blocks := Word.blocks (2 * v.bits) (Word.padded (2 * v.bits) (v.bits / 4) message)
  let t := blocks.foldl v.compress s
  let words := [t.a, t.b, t.c, t.d, t.e, t.f, t.g, t.h]
  (words.flatMap (Octets.ofNat (v.bits / 8))).take v.digestOctets

end FleetIdentity.Sha2
