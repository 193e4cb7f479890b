import ClusterLinks.Dictionary

/-!
# JSON values

A document as data. Integers are kept exactly; every other number is a decimal `mantissa *
10 ^ exponent`. Objects keep their entries in a list: `canonical` brings a document into the
form in which every object is ordered by key and names no key twice, so that equal documents
are equal values.
-/

namespace ClusterLinks

inductive Json where
  | null
  | bool (value : Bool)
  | integer (value : Int)
  | decimal (mantissa exponent : Int)
  | string (value : String)
  | array (items : List Json)
  | object (entries : List (String × Json))

namespace Json

instance : Inhabited Json := ⟨null⟩

mutual
/-- Whether two values are the same, part by part. -/
def same : Json → Json → Bool
  | .null, .null => true
  | .bool left, .bool right => left == right
  | .integer left, .integer right => left == right
  | .decimal mantissa exponent, .decimal mantissa' exponent' =>
      mantissa == mantissa' && exponent == exponent'
  | .string left, .string right => left == right
  | .array left, .array right => sameItems left right
  | .object left, .object right => sameEntries left right
  | _, _ => false

def sameItems : List Json → List Json → Bool
  | [], [] => true
  | left :: rest, right :: rest' => same left right && sameItems rest rest'
  | _, _ => false

def sameEntries : List (String × Json) → List (String × Json) → Bool
  | [], [] => true
  | (key, left) :: rest, (key', right) :: rest' =>
      key == key' && same left right && sameEntries rest rest'
  | _, _ => false
end

mutual
theorem eq_of_same : (left right : Json) → same left right = true → left = right
  | .null, right, equal => by cases right <;> simp_all [same]
  | .bool _, right, equal => by cases right <;> simp_all [same]
  | .integer _, right, equal => by cases right <;> simp_all [same]
  | .decimal _ _, right, equal => by cases right <;> simp_all [same]
  | .string _, right, equal => by cases right <;> simp_all [same]
  | .array items, right, equal => by
      cases right with
      | array items' => rw [eq_of_sameItems items items' (by simpa [same] using equal)]
      | _ => simp [same] at equal
  | .object entries, right, equal => by
      cases right with
      | object entries' => rw [eq_of_sameEntries entries entries' (by simpa [same] using equal)]
      | _ => simp [same] at equal

theorem eq_of_sameItems : (left right : List Json) → sameItems left right = true → left = right
  | [], right, equal => by cases right <;> simp_all [sameItems]
  | left :: rest, right, equal => by
      cases right with
      | nil => simp [sameItems] at equal
      | cons right rest' =>
          simp only [sameItems, Bool.and_eq_true] at equal
          rw [eq_of_same left right equal.1, eq_of_sameItems rest rest' equal.2]

theorem eq_of_sameEntries : (left right : List (String × Json)) →
    sameEntries left right = true → left = right
  | [], right, equal => by cases right <;> simp_all [sameEntries]
  | (key, left) :: rest, right, equal => by
      cases right with
      | nil => simp [sameEntries] at equal
      | cons entry rest' =>
          obtain ⟨key', right⟩ := entry
          simp only [sameEntries, Bool.and_eq_true, beq_iff_eq] at equal
          rw [equal.1.1, eq_of_same left right equal.1.2, eq_of_sameEntries rest rest' equal.2]
end

mutual
theorem same_refl : (value : Json) → same value value = true
  | .null => by simp [same]
  | .bool _ => by simp [same]
  | .integer _ => by simp [same]
  | .decimal _ _ => by simp [same]
  | .string _ => by simp [same]
  | .array items => by simpa [same] using sameItems_refl items
  | .object entries => by simpa [same] using sameEntries_refl entries

theorem sameItems_refl : (items : List Json) → sameItems items items = true
  | [] => by simp [sameItems]
  | value :: rest => by simp [sameItems, same_refl value, sameItems_refl rest]

theorem sameEntries_refl : (entries : List (String × Json)) → sameEntries entries entries = true
  | [] => by simp [sameEntries]
  | (_, value) :: rest => by simp [sameEntries, same_refl value, sameEntries_refl rest]
end

instance : DecidableEq Json := fun left right =>
  decidable_of_iff (same left right = true)
    ⟨eq_of_same left right, fun equal => equal ▸ same_refl left⟩

mutual
/-- Orders every object by key; of several entries with one key the last one stays. -/
def canonical : Json → Json
  | .array items => .array (canonicalItems items)
  | .object entries => .object (Entries.order (canonicalEntries entries))
  | value => value

def canonicalItems : List Json → List Json
  | [] => []
  | value :: rest => canonical value :: canonicalItems rest

def canonicalEntries : List (String × Json) → List (String × Json)
  | [] => []
  | (key, value) :: rest => (key, canonical value) :: canonicalEntries rest
end

/-- The entries of an object. -/
def entries? : Json → Option (Entries Json)
  | .object entries => some entries
  | _ => none

def items? : Json → Option (List Json)
  | .array items => some items
  | _ => none

def string? : Json → Option String
  | .string value => some value
  | _ => none

def bool? : Json → Option Bool
  | .bool value => some value
  | _ => none

def integer? : Json → Option Int
  | .integer value => some value
  | _ => none

/-- What an object holds under a key. -/
def get? (key : String) (value : Json) : Option Json :=
  value.entries?.bind (Entries.get? key)

/-- An object whose entries may be given in any order. -/
def ofEntries (entries : Entries Json) : Json :=
  .object entries.order

end Json

end ClusterLinks
