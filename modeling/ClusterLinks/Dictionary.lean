/-!
# Dictionaries with text keys

Entries are kept in increasing key order, each key once, so two dictionaries with the same
content are equal. The operations are stated on plain entry lists, which is the form that
nested JSON objects have, and then lifted to `Dictionary`, which carries the order.

The small lemmas say what each operation does to a look-up.
-/

namespace ClusterLinks

universe u

/-- Keys with their values. -/
abbrev Entries (α : Type u) := List (String × α)

namespace Entries

variable {α : Type u}

/-- Keys increase strictly, so no key occurs twice. -/
def Ordered (entries : Entries α) : Prop :=
  entries.Pairwise fun left right => left.1 < right.1

instance (entries : Entries α) : Decidable (Ordered entries) :=
  inferInstanceAs (Decidable (entries.Pairwise fun left right => left.1 < right.1))

/-- The value of the first entry with this key. -/
def get? (key : String) : Entries α → Option α
  | [] => none
  | (other, value) :: rest => if key = other then some value else get? key rest

/-- Whether some entry has this key. -/
def has (key : String) (entries : Entries α) : Bool :=
  (entries.get? key).isSome

/-- Puts a value under a key, in front of the first larger key, in place of the previous value. -/
def insert (key : String) (value : α) : Entries α → Entries α
  | [] => [(key, value)]
  | (other, previous) :: rest =>
      if key = other then (key, value) :: rest
      else if key < other then (key, value) :: (other, previous) :: rest
      else (other, previous) :: insert key value rest

/-- Drops every entry with this key. -/
def erase (key : String) (entries : Entries α) : Entries α :=
  entries.filter fun entry => entry.1 != key

/-- Drops every entry whose key is one of the names. -/
def without (names : List String) (entries : Entries α) : Entries α :=
  entries.filter fun entry => !names.contains entry.1

/-- Puts each of the later entries into the earlier ones. -/
def overlay (base : Entries α) : Entries α → Entries α
  | [] => base
  | (key, value) :: rest => overlay (insert key value base) rest

/-- Orders the entries; of several with one key the last one stays. -/
def order (entries : Entries α) : Entries α :=
  overlay [] entries

@[simp] theorem get?_nil (key : String) : get? key ([] : Entries α) = none := rfl

@[simp] theorem get?_insert_self (key : String) (value : α) (entries : Entries α) :
    (insert key value entries).get? key = some value := by
  induction entries with
  | nil => simp [insert, get?]
  | cons entry rest ih =>
      obtain ⟨other, previous⟩ := entry
      simp only [insert]
      split
      · simp [get?]
      · split
        · simp [get?]
        · simp_all [get?]

theorem get?_insert_of_ne {key other : String} (value : α) (entries : Entries α)
    (different : other ≠ key) : (insert key value entries).get? other = entries.get? other := by
  induction entries with
  | nil => simp [insert, get?, different]
  | cons entry rest ih =>
      obtain ⟨head, previous⟩ := entry
      simp only [insert]
      split
      · next equal => subst equal; simp [get?, different]
      · split
        · simp [get?, different]
        · simp [get?, ih]

/-- Insertion changes the look-up of one key. -/
theorem get?_insert (key other : String) (value : α) (entries : Entries α) :
    (insert key value entries).get? other =
      if other = key then some value else entries.get? other := by
  split
  · next equal => subst equal; simp
  · next different => exact get?_insert_of_ne value entries different

/-- Erasure changes the look-up of one key. -/
theorem get?_erase (key other : String) (entries : Entries α) :
    (erase key entries).get? other = if other = key then none else entries.get? other := by
  induction entries with
  | nil => simp [erase]
  | cons entry rest ih =>
      obtain ⟨head, value⟩ := entry
      simp only [erase, List.filter_cons, bne_iff_ne] at ih ⊢
      grind [get?]

theorem get?_without (names : List String) (key : String) (entries : Entries α) :
    (without names entries).get? key = if key ∈ names then none else entries.get? key := by
  induction entries with
  | nil => simp [without]
  | cons entry rest ih =>
      obtain ⟨head, value⟩ := entry
      simp only [without, List.filter_cons] at ih ⊢
      grind [get?]

theorem Ordered.tail {entry : String × α} {rest : Entries α} (ordered : Ordered (entry :: rest)) :
    Ordered rest :=
  (List.pairwise_cons.1 ordered).2

theorem Ordered.filter {entries : Entries α} (ordered : Ordered entries)
    (keep : String × α → Bool) : Ordered (entries.filter keep) :=
  List.Pairwise.filter keep ordered

theorem mem_insert {key : String} {value : α} {entries : Entries α} {entry : String × α}
    (member : entry ∈ insert key value entries) : entry = (key, value) ∨ entry ∈ entries := by
  induction entries with
  | nil => simpa [insert] using member
  | cons head rest ih =>
      obtain ⟨other, previous⟩ := head
      simp only [insert] at member
      grind

theorem Ordered.insert {entries : Entries α} (ordered : Ordered entries) (key : String)
    (value : α) : Ordered (insert key value entries) := by
  induction entries with
  | nil => simp [Entries.insert, Ordered]
  | cons head rest ih =>
      obtain ⟨other, previous⟩ := head
      have above := (List.pairwise_cons.1 ordered).1
      have rest_ordered := (List.pairwise_cons.1 ordered).2
      simp only [Entries.insert]
      split
      · next equal =>
          subst equal
          exact List.pairwise_cons.2 ⟨above, rest_ordered⟩
      · split
        · next less =>
            refine List.pairwise_cons.2 ⟨?_, ordered⟩
            intro entry member
            rcases List.mem_cons.1 member with rfl | member
            · exact less
            · exact String.lt_trans less (above entry member)
        · next different less =>
            refine List.pairwise_cons.2 ⟨?_, ih rest_ordered⟩
            intro entry member
            rcases mem_insert member with rfl | member
            · rcases Std.lt_trichotomy other key with h | h | h
              · exact h
              · exact absurd h.symm different
              · exact absurd h less
            · exact above entry member

theorem Ordered.overlay {base : Entries α} (ordered : Ordered base) (later : Entries α) :
    Ordered (overlay base later) := by
  induction later generalizing base with
  | nil => exact ordered
  | cons entry rest ih => exact ih (ordered.insert entry.1 entry.2)

theorem ordered_order (entries : Entries α) : Ordered (order entries) :=
  Ordered.overlay List.Pairwise.nil entries

end Entries

/-- A finite map from text to values, in increasing key order. -/
structure Dictionary (α : Type u) where
  entries : Entries α
  ordered : entries.Ordered

namespace Dictionary

variable {α : Type u}

@[ext] theorem ext {left right : Dictionary α} (same : left.entries = right.entries) :
    left = right := by
  cases left; cases right; cases same; rfl

instance [DecidableEq α] : DecidableEq (Dictionary α) := fun left right =>
  decidable_of_iff (left.entries = right.entries) ⟨ext, fun same => same ▸ rfl⟩

def empty : Dictionary α := ⟨[], List.Pairwise.nil⟩

instance : EmptyCollection (Dictionary α) := ⟨empty⟩

instance : Inhabited (Dictionary α) := ⟨empty⟩

/-- Orders arbitrary entries; of several with one key the last one stays. -/
def ofEntries (entries : Entries α) : Dictionary α :=
  ⟨entries.order, entries.ordered_order⟩

def get? (dictionary : Dictionary α) (key : String) : Option α :=
  dictionary.entries.get? key

def contains (dictionary : Dictionary α) (key : String) : Bool :=
  dictionary.entries.has key

def insert (dictionary : Dictionary α) (key : String) (value : α) : Dictionary α :=
  ⟨dictionary.entries.insert key value, dictionary.ordered.insert key value⟩

def erase (dictionary : Dictionary α) (key : String) : Dictionary α :=
  ⟨dictionary.entries.erase key, dictionary.ordered.filter _⟩

def isEmpty (dictionary : Dictionary α) : Bool :=
  dictionary.entries.isEmpty

end Dictionary

end ClusterLinks
