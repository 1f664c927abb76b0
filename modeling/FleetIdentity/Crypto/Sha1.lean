import FleetIdentity.Crypto.Word

/-!
The SHA-1 hash function, which old certificates are still signed with.
-/

namespace FleetIdentity.Sha1

/-- The five words of the state. -/
structure State where
  (a b c d e : Nat)

/-- The starting state. -/
def initial : State :=
  { a := 0x67452301, b := 0xEFCDAB89, c := 0x98BADCFE, d := 0x10325476, e := 0xC3D2E1F0 }

/-- The words of the message schedule. -/
def schedule : (count : Nat) → (window : List Nat) → List Nat
  | 0, _ => []
  | count + 1, window =>
    let pick := fun i => window.getD i 0
    let next := Word.rotateLeft 32 (pick 13 ^^^ pick 8 ^^^ pick 2 ^^^ pick 0) 1
    pick 0 :: schedule count (window.drop 1 ++ [next])

/-- One of the eighty rounds. -/
def round (s : State) (i word : Nat) : State :=
  let majority := (s.b &&& s.c) ||| (s.b &&& s.d) ||| (s.c &&& s.d)
  let parity := s.b ^^^ s.c ^^^ s.d
  let mixed :=
    if i < 20 then ((s.b &&& s.c) ||| (Word.complement 32 s.b &&& s.d)) + 0x5A827999
    else if i < 40 then parity + 0x6ED9EBA1
    else if i < 60 then majority + 0x8F1BBCDC
    else parity + 0xCA62C1D6
  { a := (Word.rotateLeft 32 s.a 5 + mixed + s.e + word) % 2 ^ 32, b := s.a
    c := Word.rotateLeft 32 s.b 30, d := s.c, e := s.d }

/-- The state after one block. -/
def compress (s : State) (block : Octets) : State :=
  let words := schedule 80 ((Word.blocks 4 block).map Octets.toNat)
  let t := words.zipIdx.foldl (fun t (word, i) => round t i word) s
  let add := fun x y => (x + y) % 2 ^ 32
  { a := add s.a t.a, b := add s.b t.b, c := add s.c t.c, d := add s.d t.d, e := add s.e t.e }

/-- The digest of a message. -/
def digest (message : Octets) : Octets :=
  let t := (Word.blocks 64 (Word.padded 64 8 message)).foldl compress initial
  [t.a, t.b, t.c, t.d, t.e].flatMap (Octets.ofNat 4)

end FleetIdentity.Sha1
