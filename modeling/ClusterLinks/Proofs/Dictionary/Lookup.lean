import ClusterLinks.Dictionary
import Mathlib.Data.List.Nodup

/-!
# Dictionaries as look-ups

Ordered entries are determined by what they hold under each key, so equal look-ups mean equal
dictionaries. The remaining operations are described by the look-ups of their results.
-/

namespace ClusterLinks

universe u

namespace Entries

variable {α : Type u}

/-- Each key occurs once, in whatever order. -/
def Distinct (entries : Entries α) : Prop :=
  (entries.map Prod.fst).Nodup

theorem Ordered.distinct {entries : Entries α} (ordered : Ordered entries) :
    Distinct entries := by
  apply List.pairwise_map.mpr
  apply List.Pairwise.imp _ ordered
  intro left right less equal
  rw [equal] at less
  exact String.lt_irrefl _ less

theorem get?_cons (key other : String) (value : α) (rest : Entries α) :
    Entries.get? key ((other, value) :: rest) =
      if key = other then some value else Entries.get? key rest := rfl

theorem get?_eq_none_iff {key : String} {entries : Entries α} :
    entries.get? key = none ↔ ∀ entry ∈ entries, entry.1 ≠ key := by
  induction entries with
  | nil => simp
  | cons entry rest ih =>
      rcases entry with ⟨other, value⟩
      rw [get?_cons]
      by_cases equal : key = other
      · simp [equal]
      · simp [equal, ih, Ne.symm equal]

theorem mem_of_get? {key : String} {value : α} {entries : Entries α}
    (found : entries.get? key = some value) : (key, value) ∈ entries := by
  induction entries with
  | nil => simp at found
  | cons entry rest ih =>
      rcases entry with ⟨other, previous⟩
      rw [get?_cons] at found
      by_cases equal : key = other
      · simp only [equal, ↓reduceIte, Option.some.injEq] at found
        simp [equal, found]
      · simp only [equal, ↓reduceIte] at found
        exact List.mem_cons_of_mem _ (ih found)

/-- Where keys are distinct, every entry is the one that its key finds. -/
theorem Distinct.get?_of_mem {key : String} {value : α} {entries : Entries α}
    (distinct : Distinct entries) (member : (key, value) ∈ entries) :
    entries.get? key = some value := by
  induction entries with
  | nil => simp at member
  | cons entry rest ih =>
      rcases entry with ⟨other, previous⟩
      rcases List.nodup_cons.mp distinct with ⟨fresh, restDistinct⟩
      rw [get?_cons]
      rcases List.mem_cons.mp member with same | later
      · simp_all
      · have different : key ≠ other := by
          intro equal
          exact fresh (List.mem_map.mpr ⟨_, later, equal⟩)
        simp [different, ih restDistinct later]

theorem get?_map {β : Type u} (view : α → β) (key : String) (entries : Entries α) :
    Entries.get? key (entries.map fun entry => (entry.1, view entry.2)) =
      (entries.get? key).map view := by
  induction entries with
  | nil => rfl
  | cons entry rest ih =>
      rw [List.map_cons, get?_cons, ih, get?_cons]
      split <;> rfl

theorem ordered_map_iff {β : Type u} {entries : Entries α} {view : α → β} :
    Ordered (entries.map fun entry => (entry.1, view entry.2)) ↔ Ordered entries :=
  List.pairwise_map

/-- Ordered entries with the same look-ups are the same entries. -/
theorem Ordered.ext {left right : Entries α} (leftOrdered : Ordered left)
    (rightOrdered : Ordered right) (same : ∀ key, left.get? key = right.get? key) :
    left = right := by
  have memberIff : ∀ entry, entry ∈ left ↔ entry ∈ right := by
    intro entry
    rcases entry with ⟨key, value⟩
    constructor
    · intro member
      have found := leftOrdered.distinct.get?_of_mem member
      exact mem_of_get? (same key ▸ found)
    · intro member
      have found := rightOrdered.distinct.get?_of_mem member
      exact mem_of_get? ((same key).symm ▸ found)
  have permuted : left.Perm right :=
    (List.perm_ext_iff_of_nodup (List.Nodup.of_map Prod.fst leftOrdered.distinct)
      (List.Nodup.of_map Prod.fst rightOrdered.distinct)).mpr memberIff
  apply List.Perm.eq_of_pairwise _ leftOrdered rightOrdered permuted
  intro first second _ _ less greater
  exact absurd (String.lt_trans less greater) (String.lt_irrefl _)

/-- The later entries go before the earlier ones. -/
theorem get?_overlay (key : String) {base later : Entries α} (distinct : Distinct later) :
    (overlay base later).get? key = (later.get? key).or (base.get? key) := by
  induction later generalizing base with
  | nil => simp [overlay]
  | cons entry rest ih =>
      rcases entry with ⟨other, value⟩
      rcases List.nodup_cons.mp distinct with ⟨fresh, restDistinct⟩
      rw [overlay, ih restDistinct, get?_insert, get?_cons]
      by_cases equal : key = other
      · have absent : Entries.get? other rest = none := by
          apply get?_eq_none_iff.mpr
          intro entry member equalKeys
          exact fresh (List.mem_map.mpr ⟨_, member, equalKeys⟩)
        simp [equal, absent]
      · simp [equal]

/-- What the later entries do not name stays as it was. -/
theorem get?_overlay_of_absent {key : String} {base later : Entries α}
    (absent : later.get? key = none) : (overlay base later).get? key = base.get? key := by
  induction later generalizing base with
  | nil => rfl
  | cons entry rest ih =>
      rcases entry with ⟨other, value⟩
      rw [get?_cons] at absent
      by_cases equal : key = other
      · simp [equal] at absent
      · rw [if_neg equal] at absent
        rw [overlay, ih absent, get?_insert_of_ne _ _ equal]

theorem get?_order (key : String) {entries : Entries α} (distinct : Distinct entries) :
    (order entries).get? key = entries.get? key := by
  simp [order, get?_overlay key distinct]

/-- Entries that lie over each other come from either side. -/
theorem mem_overlay {base later : Entries α} {entry : String × α}
    (member : entry ∈ overlay base later) : entry ∈ base ∨ entry ∈ later := by
  induction later generalizing base with
  | nil => exact .inl member
  | cons first rest ih =>
      rcases ih member with inserted | late
      · rcases mem_insert inserted with rfl | early
        · exact .inr List.mem_cons_self
        · exact .inl early
      · exact .inr (List.mem_cons_of_mem first late)

theorem mem_of_mem_order {entries : Entries α} {entry : String × α}
    (member : entry ∈ order entries) : entry ∈ entries := by
  rcases mem_overlay member with none | there
  · cases none
  · exact there

/-- Ordering changes nothing where there is order. -/
theorem Ordered.order_eq {entries : Entries α} (ordered : Ordered entries) :
    order entries = entries :=
  (ordered_order entries).ext ordered fun key => get?_order key ordered.distinct

theorem Ordered.erase {entries : Entries α} (ordered : Ordered entries) (key : String) :
    Ordered (erase key entries) :=
  ordered.filter _

/-- A key that is dropped anyway may as well get a new value before. -/
theorem without_insert {names : List String} {key : String} (value : α) (entries : Entries α)
    (dropped : key ∈ names) : without names (insert key value entries) = without names entries := by
  induction entries with
  | nil => simp [insert, without, dropped]
  | cons entry rest ih =>
      rcases entry with ⟨other, previous⟩
      unfold without at ih ⊢
      rw [insert]
      split
      · next equal => subst equal; simp [dropped]
      · split
        · simp [dropped]
        · rw [List.filter_cons, List.filter_cons, ih]

end Entries

namespace Dictionary

variable {α : Type u}

/-- Dictionaries that hold the same under every key are the same. -/
theorem ext_get? {left right : Dictionary α}
    (same : ∀ key, left.get? key = right.get? key) : left = right :=
  Dictionary.ext (left.ordered.ext right.ordered same)

theorem mem_entries_iff {dictionary : Dictionary α} {key : String} {value : α} :
    (key, value) ∈ dictionary.entries ↔ dictionary.get? key = some value :=
  ⟨dictionary.ordered.distinct.get?_of_mem, Entries.mem_of_get?⟩

@[simp] theorem get?_empty (key : String) : (∅ : Dictionary α).get? key = none := rfl

theorem get?_insert (dictionary : Dictionary α) (key other : String) (value : α) :
    (dictionary.insert key value).get? other =
      if other = key then some value else dictionary.get? other :=
  Entries.get?_insert key other value dictionary.entries

theorem get?_erase (dictionary : Dictionary α) (key other : String) :
    (dictionary.erase key).get? other = if other = key then none else dictionary.get? other :=
  Entries.get?_erase key other dictionary.entries

/-- Of two values put under one key the later one stays. -/
@[simp] theorem insert_insert (dictionary : Dictionary α) (key : String) (first second : α) :
    (dictionary.insert key first).insert key second = dictionary.insert key second := by
  apply ext_get?
  intro other
  by_cases equal : other = key <;> simp [get?_insert, equal]

/-- Putting in what is there already changes nothing. -/
theorem insert_of_get? {dictionary : Dictionary α} {key : String} {value : α}
    (present : dictionary.get? key = some value) : dictionary.insert key value = dictionary := by
  apply ext_get?
  intro other
  by_cases equal : other = key <;> simp [get?_insert, equal, present]

theorem ofEntries_of_ordered {entries : Entries α} (ordered : entries.Ordered) :
    ofEntries entries = ⟨entries, ordered⟩ :=
  Dictionary.ext ordered.order_eq

end Dictionary

end ClusterLinks
