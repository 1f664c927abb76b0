import FleetIdentity.Asn1.Element

/-!
# Written elements are read back

A reader reads octets as a value if it takes exactly these octets from the front of whatever
follows. What is written here is read so: lengths, elements, and sequences of elements one by one.
Lengths stay below `2 ^ 64`, which is what the reader of lengths takes.
-/

namespace FleetIdentity

namespace Octets

theorem toNatLE_eq_foldr (octets : Octets) :
    toNatLE octets = octets.foldr (fun x n => n * 256 + x.toNat) 0 := by
  induction octets with
  | nil => rfl
  | cons x rest ih =>
    rw [toNatLE, ih, List.foldr_cons]
    omega

theorem toNat_eq_toNatLE (octets : Octets) : toNat octets = toNatLE octets.reverse := by
  rw [toNatLE_eq_foldr, List.foldr_reverse]
  rfl

theorem toNat_ofNat (length n : Nat) : toNat (ofNat length n) = n % 256 ^ length := by
  rw [toNat_eq_toNatLE, ofNat, List.reverse_reverse, toNatLE_ofNatLE]

theorem lt_pow_width (n : Nat) : n < 256 ^ width n := by
  have below : n < 2 ^ (n.log2 + 1) := Nat.lt_log2_self
  have steps : 2 ^ (n.log2 + 1) ≤ 2 ^ (8 * width n) :=
    Nat.pow_le_pow_right (by decide) (by unfold width; omega)
  have octets : 256 ^ width n = 2 ^ (8 * width n) := by
    rw [Nat.pow_mul]
  omega

theorem toNat_ofNat_width (n : Nat) : toNat (ofNat (width n) n) = n := by
  rw [toNat_ofNat, Nat.mod_eq_of_lt (lt_pow_width n)]

theorem width_pos (n : Nat) : 0 < width n :=
  Nat.succ_pos _

/-- A number below a power of 256 takes no more octets than the exponent. -/
theorem width_le {n k : Nat} (pos : 0 < k) (below : n < 256 ^ k) : width n ≤ k := by
  by_cases zero : n = 0
  · subst zero
    exact pos
  · have bits : n.log2 < 8 * k := by
      refine (Nat.log2_lt zero).2 ?_
      rw [Nat.pow_mul]
      exact below
    unfold width
    omega

end Octets

namespace Asn1

variable {α β : Type}

/-- The reader takes exactly the octets from the front of whatever follows, for a value. -/
def Reads (read : Octets → Option (α × Octets)) (octets : Octets) (a : α) : Prop :=
  ∀ rest, read (octets ++ rest) = some (a, rest)

/-- At the end of a sequence there are no octets behind. -/
theorem Reads.alone {read : Octets → Option (α × Octets)} {octets : Octets} {a : α}
    (reads : Reads read octets a) : read octets = some (a, []) := by
  have last := reads []
  rwa [List.append_nil] at last

/-- A step of a reader, when what it reads first is known. -/
theorem bind_of_eq_some {first : Option α} {next : α → Option β} {a : α} (known : first = some a) :
    (first >>= next) = next a := by
  rw [known]
  rfl

/-- The octets are few enough for their number to be read. -/
def Fits (octets : Octets) : Prop :=
  octets.length < 2 ^ 64

instance (octets : Octets) : Decidable (Fits octets) :=
  inferInstanceAs (Decidable (octets.length < 2 ^ 64))

/-! ### Lengths -/

theorem reads_writeLength {n : Nat} (fits : n < 2 ^ 64) : Reads length? (writeLength n) n := by
  intro rest
  by_cases short : n < 128
  · have octet : (UInt8.ofNat n).toNat = n := by
      rw [UInt8.toNat_ofNat']
      omega
    rw [writeLength, if_pos short, List.singleton_append, length?, if_pos (octet.symm ▸ short),
      octet]
  · have width_le : Octets.width n ≤ 8 := Octets.width_le (by decide) fits
    have octet : (UInt8.ofNat (128 + Octets.width n)).toNat = 128 + Octets.width n := by
      rw [UInt8.toNat_ofNat']
      omega
    have count : 128 + Octets.width n - 128 = Octets.width n := by omega
    have digits : (Octets.ofNat (Octets.width n) n ++ rest).take (Octets.width n) =
        Octets.ofNat (Octets.width n) n :=
      List.take_left' (Octets.length_ofNat _ _)
    have others : (Octets.ofNat (Octets.width n) n ++ rest).drop (Octets.width n) = rest :=
      List.drop_left' (Octets.length_ofNat _ _)
    have positive := Octets.width_pos n
    rw [writeLength, if_neg short, List.cons_append, length?, octet, if_neg (by omega)]
    simp only [count, digits, others, Octets.toNat_ofNat_width]
    rw [if_neg]
    rw [List.length_append, Octets.length_ofNat]
    omega

/-! ### One element -/

theorem identifier?_cons {x : UInt8} (single : x.toNat % 32 ≠ 31) (rest : Octets) :
    identifier? (x :: rest) = some (.ofOctet x, rest) := by
  rw [identifier?, if_neg single]
  rfl

theorem reads_write {x : UInt8} (single : x.toNat % 32 ≠ 31) {content : Octets}
    (fits : Fits content) : Reads element? (write x content) ⟨.ofOctet x, content⟩ := by
  intro rest
  have length := reads_writeLength fits (content ++ rest)
  rw [write, List.cons_append, List.cons_append, List.append_assoc, element?,
    identifier?_cons single]
  simp only [Option.bind_eq_bind, Option.bind_some, length]
  rw [if_neg (by rw [List.length_append]; omega), List.take_left, List.drop_left]

theorem Tag.number_octet (tag : Tag) : (Identifier.ofOctet tag.octet).number = tag.number := by
  cases tag <;> rfl

theorem Tag.single_octet (tag : Tag) : tag.octet.toNat % 32 ≠ 31 := by
  cases tag <;> decide

theorem reads_expect? (tag : Tag) {content : Octets} (fits : Fits content) :
    Reads (expect? tag) (writeTag tag content) content := by
  intro rest
  rw [expect?, writeTag, reads_write tag.single_octet fits]
  simp only [Option.bind_eq_bind, Option.bind_some]
  rw [if_pos tag.number_octet]

theorem reads_primitive? (tag : Tag)
    (primitive : (Identifier.ofOctet tag.octet).constructed = false) {content : Octets}
    (fits : Fits content) :
    Reads (primitive? tag) (writeTag tag content) content := by
  intro rest
  rw [primitive?, writeTag, reads_write tag.single_octet fits]
  simp only [Option.bind_eq_bind, Option.bind_some]
  rw [if_pos ⟨tag.number_octet, by rw [primitive]; rfl⟩]

theorem reads_bitString? {bits : Octets} (fits : Fits (0 :: bits)) :
    Reads bitString? (writeBits bits) bits := by
  intro rest
  have whole : bits? (0 :: bits) = some bits := by
    cases bits with
    | nil => rfl
    | cons x more =>
      rw [bits?]
      · exact if_pos ⟨by decide, Nat.mod_one _⟩
      · nofun
  rw [bitString?, writeBits, reads_primitive? .bitString rfl fits]
  simp only [Option.bind_eq_bind, Option.bind_some, whole]
  rfl

/-! ### What fits -/

theorem Fits.of_le {octets more : Octets} (h : Fits more) (le : octets.length ≤ more.length) :
    Fits octets :=
  Nat.lt_of_le_of_lt le h

theorem length_lt_write (x : UInt8) (content : Octets) :
    content.length < (write x content).length := by
  rw [write, List.cons_append, List.length_cons, List.length_append]
  omega

theorem Fits.of_write {x : UInt8} {content : Octets} (h : Fits (write x content)) : Fits content :=
  h.of_le (Nat.le_of_lt (length_lt_write x content))

theorem reads_sequence {parts : List Octets} (fits : Fits (sequence parts)) :
    Reads (expect? .sequence) (sequence parts) parts.flatten :=
  reads_expect? .sequence fits.of_write

theorem Fits.of_mem {parts : List Octets} {part : Octets} (h : Fits (sequence parts))
    (mem : part ∈ parts) : Fits part :=
  h.of_write.of_le (List.sublist_flatten_of_mem mem).length_le

theorem write_ne_nil (x : UInt8) (content : Octets) : write x content ≠ [] :=
  List.cons_ne_nil _ _

/-! ### Many elements -/

theorem consumed_append (octets rest : Octets) : consumed (octets ++ rest) rest = octets := by
  rw [consumed, List.length_append, Nat.add_sub_cancel, List.take_left]

/-- What is written for each of some values, read as that value. -/
structure ReadsEach (read : Octets → Option (α × Octets)) (write : β → Octets) (value : β → α)
    (values : List β) : Prop where
  reads : ∀ b ∈ values, Reads read (write b) (value b)
  ne_nil : ∀ b ∈ values, write b ≠ []

theorem many_of_readsEach {read : Octets → Option (α × Octets)} {write : β → Octets}
    {value : β → α} {values : List β} (each : ReadsEach read write value values)
    (ended : read [] = none) {fuel : Nat} (enough : values.length ≤ fuel) :
    many read fuel (values.map write).flatten = (values.map value, []) := by
  -- The reader takes the octets of the first value and leaves exactly those of the others.
  induction values generalizing fuel with
  | nil =>
    cases fuel with
    | zero => rfl
    | succ fuel =>
      rw [List.map_nil, List.flatten_nil, many, ended]
      rfl
  | cons b values ih =>
    cases fuel with
    | zero => exact absurd enough (Nat.not_succ_le_zero _)
    | succ fuel =>
      have later := ih ⟨fun x hx => each.reads x (List.mem_cons_of_mem _ hx),
        fun x hx => each.ne_nil x (List.mem_cons_of_mem _ hx)⟩ (Nat.le_of_succ_le_succ enough)
      have shorter : (values.map write).flatten.length <
          (write b ++ (values.map write).flatten).length := by
        have positive := List.length_pos_iff.2 (each.ne_nil b List.mem_cons_self)
        rw [List.length_append]
        omega
      rw [List.map_cons, List.flatten_cons, many, each.reads b List.mem_cons_self]
      simp only [if_pos shorter, later, List.map_cons]

theorem length_le_flatten {write : β → Octets} {values : List β}
    (ne_nil : ∀ b ∈ values, write b ≠ []) : values.length ≤ (values.map write).flatten.length := by
  induction values with
  | nil => exact Nat.le_refl _
  | cons b values ih =>
    have positive := List.length_pos_iff.2 (ne_nil b List.mem_cons_self)
    have later := ih fun x hx => ne_nil x (List.mem_cons_of_mem _ hx)
    rw [List.map_cons, List.flatten_cons, List.length_append, List.length_cons]
    omega

theorem all?_of_readsEach {read : Octets → Option (α × Octets)} {write : β → Octets}
    {value : β → α} {values : List β} (each : ReadsEach read write value values)
    (ended : read [] = none) :
    all? read (values.map write).flatten = some (values.map value) := by
  rw [all?, many_of_readsEach each ended (length_le_flatten each.ne_nil)]

/-! ### What a reader leaves

The rest is no longer than what the reader was given, and the content of an element is short enough
for its length to be written again. -/

variable {octets rest : Octets}

theorem longNumber?_length_le {most n number : Nat}
    (read : longNumber? most n octets = some (number, rest)) : rest.length ≤ octets.length := by
  induction most generalizing n octets with
  | zero => cases read
  | succ most ih =>
    cases octets with
    | nil => cases read
    | cons x octets =>
      simp only [longNumber?] at read
      split at read
      · cases read
        exact Nat.le_succ _
      · exact Nat.le_succ_of_le (ih read)

theorem identifier?_length_le {identifier : Identifier}
    (read : identifier? octets = some (identifier, rest)) : rest.length ≤ octets.length := by
  cases octets with
  | nil => cases read
  | cons x octets =>
    simp only [identifier?] at read
    split at read
    · obtain ⟨⟨number, after⟩, long, made⟩ := Option.map_eq_some_iff.1 read
      cases made
      exact Nat.le_succ_of_le (longNumber?_length_le long)
    · cases read
      exact Nat.le_succ _

theorem length?_bounds {n : Nat} (read : length? octets = some (n, rest)) :
    n < 2 ^ 64 ∧ rest.length ≤ octets.length := by
  cases octets with
  | nil => cases read
  | cons x octets =>
    simp only [length?] at read
    split at read
    · cases read
      exact ⟨by omega, Nat.le_succ _⟩
    · split at read
      · cases read
      · next few =>
        obtain ⟨rfl, rfl⟩ := Prod.mk.inj (Option.some.inj read)
        rw [List.length_drop, List.length_cons]
        exact ⟨by omega, by omega⟩

theorem element?_bounds {e : Element} (read : element? octets = some (e, rest)) :
    e.content.length < 2 ^ 64 ∧ rest.length ≤ octets.length := by
  obtain ⟨⟨identifier, after⟩, identified, read⟩ := Option.bind_eq_some_iff.1 read
  obtain ⟨⟨length, behind⟩, measured, read⟩ := Option.bind_eq_some_iff.1 read
  have first := identifier?_length_le identified
  obtain ⟨few, second⟩ := length?_bounds measured
  dsimp only at read
  split at read
  · cases read
  · cases read
    rw [List.length_take, List.length_drop]
    omega

theorem expect?_bounds {tag : Tag} {content : Octets}
    (read : expect? tag octets = some (content, rest)) :
    content.length < 2 ^ 64 ∧ rest.length ≤ octets.length := by
  obtain ⟨⟨e, after⟩, element, read⟩ := Option.bind_eq_some_iff.1 read
  dsimp only at read
  split at read
  · cases read
    exact element?_bounds element
  · cases read

end Asn1

end FleetIdentity
