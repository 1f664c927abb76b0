import FleetIdentity.Crypto.Word

/-!
The BLAKE3 hash function with a digest of 32 octets.

The message is cut into chunks of 1024 octets, a chunk into blocks of 64. Chunks are the leaves of
a binary tree whose left subtrees are full; the compression of the root is the digest.
-/

namespace FleetIdentity.Blake3

/-- The starting chaining value. -/
def initial : List Nat :=
  [0x6A09E667, 0xBB67AE85, 0x3C6EF372, 0xA54FF53A, 0x510E527F, 0x9B05688C, 0x1F83D9AB, 0x5BE0CD19]

/-- The order in which a round hands its message words to the next. -/
def permutation : List Nat :=
  [2, 6, 3, 10, 7, 0, 4, 13, 1, 11, 12, 5, 9, 14, 15, 8]

/-- The flags of a compression. -/
def chunkStart : Nat := 1
/-- The last block of a chunk. -/
def chunkEnd : Nat := 2
/-- An inner node of the tree. -/
def parent : Nat := 4
/-- The root of the tree. -/
def root : Nat := 8

/-- Mixes two message words into four words of the state. -/
def quarter (v : Array Nat) (a b c d x y : Nat) : Array Nat :=
  let word := fun (v : Array Nat) i => v.getD i 0
  let add := fun m n => (m + n) % 2 ^ 32
  let v := v.setIfInBounds a (add (word v a + word v b) x)
  let v := v.setIfInBounds d (Word.rotateRight 32 (word v d ^^^ word v a) 16)
  let v := v.setIfInBounds c (add (word v c) (word v d))
  let v := v.setIfInBounds b (Word.rotateRight 32 (word v b ^^^ word v c) 12)
  let v := v.setIfInBounds a (add (word v a + word v b) y)
  let v := v.setIfInBounds d (Word.rotateRight 32 (word v d ^^^ word v a) 8)
  let v := v.setIfInBounds c (add (word v c) (word v d))
  v.setIfInBounds b (Word.rotateRight 32 (word v b ^^^ word v c) 7)

/-- One round: the columns of the state, then its diagonals. -/
def round (v : Array Nat) (m : List Nat) : Array Nat :=
  let word := fun i => m.getD i 0
  let v := quarter v 0 4 8 12 (word 0) (word 1)
  let v := quarter v 1 5 9 13 (word 2) (word 3)
  let v := quarter v 2 6 10 14 (word 4) (word 5)
  let v := quarter v 3 7 11 15 (word 6) (word 7)
  let v := quarter v 0 5 10 15 (word 8) (word 9)
  let v := quarter v 1 6 11 12 (word 10) (word 11)
  let v := quarter v 2 7 8 13 (word 12) (word 13)
  quarter v 3 4 9 14 (word 14) (word 15)

/-- The rounds, the message words permuted after each. -/
def rounds : (count : Nat) → Array Nat → List Nat → Array Nat
  | 0, v, _ => v
  | count + 1, v, m => rounds count (round v m) (permutation.map fun i => m.getD i 0)

/-- The chaining value after a block. -/
def compress (chaining words : List Nat) (counter length flags : Nat) : List Nat :=
  let start := chaining ++ initial.take 4 ++
    [counter % 2 ^ 32, counter / 2 ^ 32 % 2 ^ 32, length, flags]
  let v := rounds 7 start.toArray words
  (List.range 8).map fun i => v.getD i 0 ^^^ v.getD (i + 8) 0

theorem length_compress (chaining words : List Nat) (counter length flags : Nat) :
    (compress chaining words counter length flags).length = 8 := by
  rw [compress, List.length_map, List.length_range]

/-- The sixteen words of a block, filled up with zeros. -/
def blockWords (block : Octets) : List Nat :=
  (Word.blocks 4 (block ++ List.replicate (64 - block.length) 0)).map Octets.toNatLE

/-- The chaining value of a chunk; `last` holds further flags of its last block. -/
def chunkFrom (counter last : Nat) : (first : Bool) → List Nat → List Octets → List Nat
  | _, chaining, [] => chaining
  | first, chaining, block :: rest =>
    let flags := (if first then chunkStart else 0) + (if rest.isEmpty then chunkEnd + last else 0)
    chunkFrom counter last false (compress chaining (blockWords block) counter block.length flags)
      rest

theorem length_chunkFrom (counter last : Nat) {blocks : List Octets} (some_block : blocks ≠ [])
    (first : Bool) (chaining : List Nat) :
    (chunkFrom counter last first chaining blocks).length = 8 := by
  induction blocks generalizing first chaining with
  | nil => exact absurd rfl some_block
  | cons block rest ih =>
    rw [chunkFrom]
    cases rest with
    | nil => exact length_compress _ _ _ _ _
    | cons second rest => exact ih (List.cons_ne_nil _ _) _ _

/-- The chaining value of a chunk. -/
def chunk (counter last : Nat) (octets : Octets) : List Nat :=
  let blocks := Word.blocks 64 octets
  chunkFrom counter last true initial (if blocks.isEmpty then [[]] else blocks)

theorem length_chunk (counter last : Nat) (octets : Octets) :
    (chunk counter last octets).length = 8 := by
  refine length_chunkFrom counter last ?_ true initial
  split
  · exact List.cons_ne_nil _ _
  · next some_block => simpa using some_block

/-- The chaining value of the tree over `octets`, whose first chunk is number `counter`. -/
def tree : (height : Nat) → (counter last : Nat) → Octets → List Nat
  | 0, counter, last, octets => chunk counter last octets
  | height + 1, counter, last, octets =>
    let chunks := (octets.length + 1023) / 1024
    if chunks ≤ 1 then chunk counter last octets
    else
      let half := 2 ^ (chunks - 1).log2
      let left := tree height counter 0 (octets.take (1024 * half))
      let right := tree height (counter + half) 0 (octets.drop (1024 * half))
      compress initial (left ++ right) 0 64 (parent + last)

theorem length_tree (height counter last : Nat) (octets : Octets) :
    (tree height counter last octets).length = 8 := by
  cases height with
  | zero => exact length_chunk counter last octets
  | succ height =>
    rw [tree]
    split
    · exact length_chunk counter last octets
    · exact length_compress _ _ _ _ _

/-- The digest of a message. -/
def digest (message : Octets) : Octets :=
  (tree (message.length.log2 + 1) 0 root message).flatMap (Octets.ofNatLE 4)

theorem length_digest (message : Octets) : (digest message).length = 32 := by
  have words : ∀ ws : List Nat, (ws.flatMap (Octets.ofNatLE 4)).length = 4 * ws.length := by
    intro ws
    induction ws with
    | nil => rfl
    | cons w ws ih =>
      rw [List.flatMap_cons, List.length_append, Octets.length_ofNatLE, ih, List.length_cons]
      omega
  rw [digest, words, length_tree]

end FleetIdentity.Blake3
