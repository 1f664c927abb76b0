import FleetIdentity.Proofs.Store.Agreement
import FleetIdentity.Proofs.Text.OctetOrder

/-!
# In what order the devices of an organization are listed

A database lists by brand, model and serial number, each compared by its octets. The store in memory
lists by the three texts joined with slashes, and what follows a text then counts in its comparison
with a longer one: a brand that goes on with a character below the slash, such as a space, a dash or
a dot, passes the brand that it goes on from. The same holds of two models of one brand. Nothing
else sets the two orders apart.
-/

namespace FleetIdentity

/-! ### Texts in front of a slash -/

/-- A text that goes on from another one, and yet comes first once each is followed by a slash and
more. -/
def Passes (long short behind behind' : List Char) : Prop :=
  ∃ c rest, long = short ++ c :: rest ∧ c :: (rest ++ '/' :: behind) < '/' :: behind'

theorem passes_cons_iff {c d : Char} {x y u v : List Char} :
    Passes (c :: x) (d :: y) u v ↔ c = d ∧ Passes x y u v := by
  constructor
  · rintro ⟨next, rest, split, lt⟩
    rw [List.cons_append] at split
    obtain ⟨rfl, tail⟩ := List.cons.inj split
    exact ⟨rfl, next, rest, tail, lt⟩
  · rintro ⟨rfl, next, rest, rfl, lt⟩
    exact ⟨next, rest, rfl, lt⟩

/-- Where the order of the joined texts and that of the first parts disagree, one goes on from the
other. -/
theorem passes_iff {x y u v : List Char} :
    Passes x y u v ↔ x ++ '/' :: u < y ++ '/' :: v ∧ y < x := by
  -- The induction takes what both texts start with off them, until one of them ends.
  induction y generalizing x with
  | nil =>
    constructor
    · rintro ⟨c, rest, rfl, lt⟩
      exact ⟨lt, List.nil_lt_cons _ _⟩
    · rintro ⟨lt, before⟩
      cases x with
      | nil => exact absurd before (List.not_lt_nil _)
      | cons c rest => exact ⟨c, rest, rfl, lt⟩
  | cons d y ih =>
    cases x with
    | nil =>
      constructor
      · rintro ⟨c, rest, split, _⟩
        cases split
      · rintro ⟨_, before⟩
        exact absurd before (List.not_lt_nil _)
    | cons c x =>
      rw [passes_cons_iff, ih, List.cons_append, List.cons_append, List.cons_lt_cons_iff,
        List.cons_lt_cons_iff]
      constructor
      · rintro ⟨rfl, lt, before⟩
        exact ⟨.inr ⟨rfl, lt⟩, .inr ⟨rfl, before⟩⟩
      · rintro ⟨first | ⟨rfl, lt⟩, second | ⟨eq, before⟩⟩
        · exact absurd first (Char.lt_asymm second)
        · exact absurd first (eq ▸ Char.lt_irrefl d)
        · exact absurd second (Char.lt_irrefl c)
        · exact ⟨rfl, lt, before⟩

theorem Passes.exists_le_slash {x y u v : List Char} (h : Passes x y u v) :
    ∃ c rest, x = y ++ c :: rest ∧ c ≤ '/' := by
  obtain ⟨c, rest, split, lt⟩ := h
  refine ⟨c, rest, split, ?_⟩
  rcases List.cons_lt_cons_iff.1 lt with below | ⟨slash, _⟩
  · exact Std.le_of_lt below
  · exact Std.le_of_eq slash

/-- If the longer text has no slash, the character with which it goes on decides. -/
theorem passes_iff_of_slash_not_mem {x y u v : List Char} (free : '/' ∉ x) :
    Passes x y u v ↔ ∃ c rest, x = y ++ c :: rest ∧ c < '/' := by
  constructor
  · intro h
    obtain ⟨c, rest, rfl, le⟩ := h.exists_le_slash
    refine ⟨c, rest, rfl, Std.lt_of_le_of_ne le ?_⟩
    rintro rfl
    exact free (by simp)
  · rintro ⟨c, rest, rfl, below⟩
    exact ⟨c, rest, rfl, List.cons_lt_cons_iff.2 (.inl below)⟩

theorem append_lt_append_iff {x u v : List Char} : x ++ u < x ++ v ↔ u < v := by
  induction x with
  | nil => exact Iff.rfl
  | cons c x ih => rw [List.cons_append, List.cons_append, List.cons_lt_cons_self, ih]

/-! ### Devices -/

namespace Device

variable {d e : Device}

/-- The octets of brand, model and serial number, which are compared in this order. -/
def octetKey (d : Device) : List Octets :=
  [Utf8.ofString d.brand, Utf8.ofString d.model, Utf8.ofString d.serialNumber]

/-- The device comes first by its joined text, but second by brand, model and serial number: its
brand passes that of the other, or, the brands being equal, its model does. -/
def Overtakes (d e : Device) : Prop :=
  Passes d.brand.toList e.brand.toList (d.model.toList ++ '/' :: d.serialNumber.toList)
      (e.model.toList ++ '/' :: e.serialNumber.toList) ∨
    (d.brand = e.brand ∧ Passes d.model.toList e.model.toList d.serialNumber.toList
      e.serialNumber.toList)

theorem octetKey_lt_iff : d.octetKey < e.octetKey ↔ d.brand < e.brand ∨
    (d.brand = e.brand ∧ (d.model < e.model ∨
      (d.model = e.model ∧ d.serialNumber < e.serialNumber))) := by
  rw [octetKey, octetKey, List.cons_lt_cons_iff, List.cons_lt_cons_iff, List.cons_lt_cons_iff]
  simp only [Utf8.ofString_lt_iff, Utf8.ofString_injective.eq_iff, List.lt_irrefl, and_false,
    or_false]

theorem naturalKey_lt_iff : d.naturalKey < e.naturalKey ↔
    d.brand.toList ++ '/' :: (d.model.toList ++ '/' :: d.serialNumber.toList) <
      e.brand.toList ++ '/' :: (e.model.toList ++ '/' :: e.serialNumber.toList) := by
  rw [String.lt_iff, ← toList_naturalKey, ← toList_naturalKey]
  exact Iff.rfl

/-- The two orders disagree about a device and one that it overtakes, and about no others. -/
theorem overtakes_iff : d.Overtakes e ↔ d.naturalKey < e.naturalKey ∧ e.octetKey < d.octetKey := by
  rw [naturalKey_lt_iff, octetKey_lt_iff]
  constructor
  · rintro (brand | ⟨brand_eq, model⟩)
    · obtain ⟨joined, before⟩ := passes_iff.1 brand
      exact ⟨joined, .inl before⟩
    · obtain ⟨joined, before⟩ := passes_iff.1 model
      rw [brand_eq, append_lt_append_iff, List.cons_lt_cons_self]
      exact ⟨joined, .inr ⟨rfl, .inl before⟩⟩
  · rintro ⟨joined, before | ⟨brand_eq, later⟩⟩
    · exact .inl (passes_iff.2 ⟨joined, before⟩)
    · rw [brand_eq, append_lt_append_iff, List.cons_lt_cons_self] at joined
      rcases later with before | ⟨model_eq, before⟩
      · exact .inr ⟨brand_eq.symm, passes_iff.2 ⟨joined, before⟩⟩
      · rw [model_eq, append_lt_append_iff, List.cons_lt_cons_self] at joined
        exact absurd joined (List.lt_asymm before)

/-- A device that overtakes has a character in its brand or its model that is not above the
slash. -/
theorem Overtakes.exists_le_slash (h : d.Overtakes e) :
    ∃ c ∈ d.brand.toList ++ d.model.toList, c ≤ '/' := by
  rcases h with brand | ⟨_, model⟩
  · obtain ⟨c, rest, split, le⟩ := brand.exists_le_slash
    exact ⟨c, by simp [split], le⟩
  · obtain ⟨c, rest, split, le⟩ := model.exists_le_slash
    exact ⟨c, by simp [split], le⟩

/-- A device without slashes in its brand and its model overtakes those whose brand, or whose model
under the same brand, it takes further with a character below the slash. -/
theorem overtakes_iff_of_slashFree (free : SlashFree d.brand d.model) : d.Overtakes e ↔
    (∃ c rest, d.brand.toList = e.brand.toList ++ c :: rest ∧ c < '/') ∨
      (d.brand = e.brand ∧ ∃ c rest, d.model.toList = e.model.toList ++ c :: rest ∧ c < '/') := by
  rw [Overtakes, passes_iff_of_slash_not_mem free.1, passes_iff_of_slash_not_mem free.2]

end Device

/-! ### Listings -/

namespace Store

variable {s : Store}

/-- The enrollments stand in the order of brand, model and serial number. -/
def InOrder (listed : List Enrollment) : Prop :=
  listed.Pairwise fun a b => a.device.octetKey ≤ b.device.octetKey

theorem listKey_le_iff_octetKey {a b : Enrollment} :
    List.le (StoreKind.database.listKey a) (StoreKind.database.listKey b) ↔
      a.device.octetKey ≤ b.device.octetKey := by
  show ¬ [b.device.brand, b.device.model, b.device.serialNumber] <
    [a.device.brand, a.device.model, a.device.serialNumber] ↔ ¬ _
  rw [Device.octetKey_lt_iff, List.cons_lt_cons_iff, List.cons_lt_cons_iff, List.cons_lt_cons_iff]
  simp

theorem listKey_le_iff_naturalKey {a b : Enrollment} :
    List.le (StoreKind.memory.listKey a) (StoreKind.memory.listKey b) ↔
      a.device.naturalKey ≤ b.device.naturalKey := by
  rw [← naturalKey_le_iff, decide_eq_true_iff]

/-- A database lists in this order; a store in memory does if no device of the organization
overtakes another one of it. -/
theorem inOrder_iff (h : s.Sound) {organizationId : String} {listed : List Enrollment}
    (read : s.listDevices organizationId = .ok listed) :
    InOrder listed ↔ s.kind = .database ∨
      ∀ a ∈ listed, ∀ b ∈ listed, ¬ a.device.Overtakes b.device := by
  obtain ⟨found, found_read, perm, sorted⟩ := listDevices_sorted h organizationId
  obtain rfl : found = listed := Except.ok.inj (found_read.symm.trans read)
  cases kind : s.kind with
  | database =>
    rw [kind] at sorted
    exact iff_of_true (sorted.imp listKey_le_iff_octetKey.1) (.inl rfl)
  | memory =>
    rw [kind] at sorted
    have sorted : found.Pairwise fun a b => a.device.naturalKey ≤ b.device.naturalKey :=
      sorted.imp listKey_le_iff_naturalKey.1
    constructor
    · -- Of two devices either comes first in the list; if it overtakes the other, the list is out
      -- of order, and if it is overtaken, the list is not sorted by the joined texts.
      intro ordered
      right
      refine List.Pairwise.forall_of_forall_of_flip ?_ (ordered.imp ?_) (sorted.imp ?_)
      · intro a _ h
        exact String.lt_irrefl _ (Device.overtakes_iff.1 h).1
      · intro a b before h
        exact before (Device.overtakes_iff.1 h).2
      · intro a b joined h
        exact String.not_lt.2 joined (Device.overtakes_iff.1 h).1
    · rintro (database | none)
      · cases database
      refine sorted.imp_of_mem ?_
      intro a b ha hb joined before
      rcases Std.le_iff_lt_or_eq.1 joined with lt | same
      · exact none a ha b hb (Device.overtakes_iff.2 ⟨lt, before⟩)
      · have in_store : ∀ x ∈ found, x ∈ s.enrollments :=
          fun x hx => List.mem_of_mem_filter (perm.mem_iff.1 hx)
        have key : s.kind.listKey a = s.kind.listKey b := by
          rw [kind]
          exact congrArg (fun text => [text]) same
        obtain rfl := h.eq_of_listKey (in_store a ha) (in_store b hb) key
        exact List.lt_irrefl _ before

/-- The devices of an organization are all listed. They stand in the order of brand, model and
serial number in a database, and in a store in memory exactly if none of them overtakes another; and
exactly then a database with the same enrollments lists them alike. -/
theorem listDevices_inOrder_iff (reached : s.Reachable) (organizationId : String) :
    ∃ listed, s.listDevices organizationId = .ok listed ∧
      listed.Perm (s.enrollments.filter (·.organization.id == organizationId)) ∧
      (InOrder listed ↔ s.kind = .database ∨
        ∀ a ∈ listed, ∀ b ∈ listed, ¬ a.device.Overtakes b.device) ∧
      ∀ t : Store, t.Reachable → t.kind = .database → t.enrollments.Perm s.enrollments →
        (t.listDevices organizationId = .ok listed ↔ InOrder listed) := by
  obtain ⟨listed, read, perm, _⟩ := listDevices_sorted reached.sound organizationId
  refine ⟨listed, read, perm, inOrder_iff reached.sound read, ?_⟩
  intro t reached' database same
  constructor
  · intro read'
    exact (inOrder_iff reached'.sound read').2 (.inl database)
  · intro in_order
    refine reached'.sound.listDevices_eq_ok (perm.trans (same.symm.filter _)) ?_
    rw [database]
    exact in_order.imp listKey_le_iff_octetKey.2

/-- Where no brand and no model has a character up to the slash, either kind of store lists in
order. -/
theorem inOrder_of_above_slash (reached : s.Reachable) {organizationId : String}
    {listed : List Enrollment} (read : s.listDevices organizationId = .ok listed)
    (above : ∀ e ∈ listed, ∀ c ∈ e.device.brand.toList ++ e.device.model.toList, '/' < c) :
    InOrder listed := by
  refine (inOrder_iff reached.sound read).2 (.inr fun a ha b _ overtakes => ?_)
  obtain ⟨c, mem, le⟩ := overtakes.exists_le_slash
  exact absurd (above a ha c mem) (Char.not_lt.2 le)

/-- Two devices of one organization whose brands are `a` and `a!`. -/
def markCalls : List Call :=
  [.createOrganization "o" ⟨"acme", "", "", ""⟩,
    .createDevice "d" ⟨"o", "a", "m", "s", ⟨"", "", "", ""⟩⟩,
    .createDevice "e" ⟨"o", "a!", "m", "s", ⟨"", "", "", ""⟩⟩]

/-- A store after these calls. -/
def withMark (s : Store) : Store :=
  markCalls.foldl (fun s call => (s.perform call).2) s

/-- The enrollment of the device of a brand. -/
def markEnrollment (id brand : String) : Enrollment :=
  ⟨id, ⟨brand, "m", "s", "", ""⟩, ⟨"", "", "", ""⟩, ⟨"o", "acme", "", "", ""⟩, .waiting, ""⟩

theorem reachable_withMark : (withMark (.memory .empty)).Reachable :=
  Reachable.memory.performAll _

theorem reachable_withMark_database : (withMark (.database .empty)).Reachable :=
  Reachable.database.performAll _

theorem enrollments_withMark : (withMark (.memory .empty)).enrollments =
      [markEnrollment "d" "a", markEnrollment "e" "a!"] ∧
    (withMark (.database .empty)).enrollments =
      [markEnrollment "d" "a", markEnrollment "e" "a!"] := by
  decide +kernel

theorem listDevices_inOrder_iff_mark : ∃ listed,
    (withMark (.memory .empty)).listDevices "o" = .ok listed ∧ ¬ InOrder listed ∧
      (withMark (.database .empty)).listDevices "o" ≠ .ok listed := by
  obtain ⟨enrollments_eq, enrollments_eq'⟩ := enrollments_withMark
  obtain ⟨listed, read, perm, ordered_iff, alike_iff⟩ :=
    listDevices_inOrder_iff reachable_withMark "o"
  rw [enrollments_eq] at perm
  have overtakes : (markEnrollment "e" "a!").device.Overtakes (markEnrollment "d" "a").device :=
    .inl ⟨'!', [], rfl, by decide⟩
  have unordered : ¬ InOrder listed := by
    intro ordered
    rcases ordered_iff.1 ordered with database | none
    · cases database
    · exact none _ (perm.mem_iff.2 (by decide)) _ (perm.mem_iff.2 (by decide)) overtakes
  refine ⟨listed, read, unordered, fun read' => unordered ?_⟩
  refine (alike_iff _ reachable_withMark_database rfl ?_).1 read'
  rw [enrollments_eq, enrollments_eq']

theorem listDevices_withMark :
    (withMark (.memory .empty)).listDevices "o" =
      .ok [markEnrollment "e" "a!", markEnrollment "d" "a"] ∧
    (withMark (.database .empty)).listDevices "o" =
      .ok [markEnrollment "d" "a", markEnrollment "e" "a!"] := by
  obtain ⟨enrollments_eq, enrollments_eq'⟩ := enrollments_withMark
  refine ⟨?_, ?_⟩
  · refine reachable_withMark.sound.listDevices_eq_ok ?_ ?_
    · rw [enrollments_eq]
      exact .swap _ _ _
    · exact List.pairwise_pair.2 (by decide)
  · refine reachable_withMark_database.sound.listDevices_eq_ok ?_ ?_
    · rw [enrollments_eq']
      exact .refl _
    · exact List.pairwise_pair.2 (by decide)

/-- In memory the brand `a!` stands in front of the brand `a`, and a database has it behind. -/
theorem listDevices_mark_first :
    (withMark (.memory .empty)).Reachable ∧ (withMark (.database .empty)).Reachable ∧
    (withMark (.memory .empty)).listDevices "o" =
      .ok [markEnrollment "e" "a!", markEnrollment "d" "a"] ∧
    (withMark (.database .empty)).listDevices "o" =
      .ok [markEnrollment "d" "a", markEnrollment "e" "a!"] ∧
    ¬ InOrder [markEnrollment "e" "a!", markEnrollment "d" "a"] := by
  obtain ⟨listed, listed'⟩ := listDevices_withMark
  refine ⟨reachable_withMark, reachable_withMark_database, listed, listed', fun ordered => ?_⟩
  exact absurd (List.pairwise_pair.1 ordered) (by decide)

end Store

end FleetIdentity
