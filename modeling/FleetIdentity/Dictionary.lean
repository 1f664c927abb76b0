/-!
Finite maps from names to values, held in ascending order of the names.

The order is that of the characters' code points, which is also the order of the UTF-8 octets.
Main statements: what a lookup gives after an insertion, and that two maps with the same lookups are
equal.
-/

namespace FleetIdentity

/-- Entries in strictly ascending order of their names. -/
def Ascending {α : Type} (entries : List (String × α)) : Prop :=
  entries.Pairwise fun a b => a.1 < b.1

/-- A finite map from names to values. -/
structure Dictionary (α : Type) where
  entries : List (String × α)
  ascending : Ascending entries
  deriving DecidableEq

namespace Dictionary

variable {α : Type}

/-- Puts an entry at its place, in the stead of one with the same name. -/
def insertEntry (name : String) (value : α) : List (String × α) → List (String × α)
  | [] => [(name, value)]
  | entry :: rest =>
    if name < entry.1 then (name, value) :: entry :: rest
    else if name = entry.1 then (name, value) :: rest
    else entry :: insertEntry name value rest

theorem mem_insertEntry {name : String} {value : α} {entries : List (String × α)}
    {e : String × α} (h : e ∈ insertEntry name value entries) :
    e = (name, value) ∨ e ∈ entries := by
  induction entries with
  | nil => simpa [insertEntry] using h
  | cons entry rest ih =>
    simp only [insertEntry] at h
    split at h
    · simpa using h
    · split at h
      · rcases List.mem_cons.1 h with h | h
        · exact .inl h
        · exact .inr (List.mem_cons_of_mem _ h)
      · rcases List.mem_cons.1 h with h | h
        · exact .inr (h ▸ List.mem_cons_self)
        · exact (ih h).imp_right (List.mem_cons_of_mem _)

theorem ascending_insertEntry {name : String} {value : α} {entries : List (String × α)}
    (h : Ascending entries) : Ascending (insertEntry name value entries) := by
  unfold Ascending at h ⊢
  induction entries with
  | nil => simp [insertEntry]
  | cons entry rest ih =>
    obtain ⟨first, later⟩ := List.pairwise_cons.1 h
    simp only [insertEntry]
    split
    · next lt =>
      refine List.pairwise_cons.2 ⟨fun e he => ?_, h⟩
      rcases List.mem_cons.1 he with rfl | he
      · exact lt
      · exact String.lt_trans lt (first e he)
    · next nlt =>
      split
      · next eq => exact List.pairwise_cons.2 ⟨fun e he => eq ▸ first e he, later⟩
      · next ne =>
        refine List.pairwise_cons.2 ⟨fun e he => ?_, ih later⟩
        rcases mem_insertEntry he with rfl | he
        · exact Std.lt_of_le_of_ne (String.not_lt.1 nlt) (Ne.symm ne)
        · exact first e he

/-- The map without entries. -/
def empty : Dictionary α :=
  { entries := [], ascending := List.Pairwise.nil }

instance : Inhabited (Dictionary α) := ⟨empty⟩

/-- The value of a name. -/
def get? (d : Dictionary α) (name : String) : Option α :=
  d.entries.lookup name

/-- The map has a value for the name. -/
def contains (d : Dictionary α) (name : String) : Bool :=
  (d.get? name).isSome

/-- The map with a value for a name, in the stead of the one it had. -/
def insert (d : Dictionary α) (name : String) (value : α) : Dictionary α :=
  { entries := insertEntry name value d.entries
    ascending := ascending_insertEntry d.ascending }

/-- The values in the order of their names. -/
def values (d : Dictionary α) : List α :=
  d.entries.map (·.2)

/-- The number of names. -/
def size (d : Dictionary α) : Nat :=
  d.entries.length

/-- The map of a list of entries; of several with one name the last one counts. -/
def ofList (entries : List (String × α)) : Dictionary α :=
  entries.foldl (fun d (name, value) => d.insert name value) empty

@[simp] theorem get?_empty (name : String) : (empty : Dictionary α).get? name = none := rfl

private theorem lookup_cons_ne {name other : String} (value : α) (entries : List (String × α))
    (h : other ≠ name) : ((name, value) :: entries).lookup other = entries.lookup other := by
  rw [List.lookup_cons, beq_false_of_ne h]

theorem lookup_insertEntry (name other : String) (value : α) (entries : List (String × α)) :
    (insertEntry name value entries).lookup other =
      if other = name then some value else entries.lookup other := by
  induction entries with
  | nil =>
    by_cases h : other = name
    · subst h; simp [insertEntry]
    · simp [insertEntry, lookup_cons_ne _ _ h, h]
  | cons entry rest ih =>
    obtain ⟨key, old⟩ := entry
    simp only [insertEntry]
    split
    · by_cases h : other = name
      · subst h; simp
      · simp [lookup_cons_ne _ _ h, h]
    · split
      · next eq =>
        subst eq
        by_cases h : other = name
        · subst h; simp
        · simp [lookup_cons_ne _ _ h, h]
      · next ne =>
        by_cases hk : other = key
        · subst hk; simp [Ne.symm ne]
        · simp only [lookup_cons_ne _ _ hk, ih]

theorem get?_insert (d : Dictionary α) (name other : String) (value : α) :
    (d.insert name value).get? other = if other = name then some value else d.get? other :=
  lookup_insertEntry name other value d.entries

theorem keys_nodup (d : Dictionary α) : (d.entries.map (·.1)).Nodup := by
  rw [List.nodup_iff_pairwise_ne, List.pairwise_map]
  refine d.ascending.imp fun lt same => ?_
  rw [same] at lt
  exact String.lt_irrefl _ lt

theorem mem_entries_iff {d : Dictionary α} {key : String} {value : α} :
    (key, value) ∈ d.entries ↔ d.get? key = some value := by
  have distinct := d.keys_nodup
  unfold get?
  generalize d.entries = entries at distinct
  induction entries with
  | nil => simp
  | cons entry entries ih =>
    obtain ⟨other, first⟩ := entry
    obtain ⟨absent, distinct⟩ := List.nodup_cons.1 distinct
    rw [List.mem_cons, Prod.mk.injEq, List.lookup_cons]
    by_cases same : key = other
    · subst same
      have later : (key, value) ∉ entries :=
        fun mem => absent (List.mem_map.2 ⟨(key, value), mem, rfl⟩)
      simp [later, eq_comm]
    · rw [beq_false_of_ne same]
      simp [same, ih distinct]

/-- Maps with the same lookups are equal. -/
theorem eq_of_get? {d e : Dictionary α} (same : ∀ name, d.get? name = e.get? name) : d = e := by
  have nodup (d : Dictionary α) : d.entries.Nodup := by
    have keys := d.keys_nodup
    rw [List.nodup_iff_pairwise_ne, List.pairwise_map] at keys
    exact keys.imp fun ne eq => ne (congrArg Prod.fst eq)
  have mem : ∀ entry, entry ∈ d.entries ↔ entry ∈ e.entries := by
    intro entry
    obtain ⟨name, value⟩ := entry
    rw [mem_entries_iff, mem_entries_iff, same]
  have perm := (List.perm_ext_iff_of_nodup (nodup d) (nodup e)).2 mem
  have entries_eq : d.entries = e.entries := by
    refine perm.eq_of_pairwise ?_ d.ascending e.ascending
    intro a b _ _ ab ba
    exact absurd (String.lt_trans ab ba) (String.lt_irrefl _)
  cases d
  cases e
  simpa using entries_eq

end Dictionary

end FleetIdentity
