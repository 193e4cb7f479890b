import ClusterLinks.Json.MergePatch
import ClusterLinks.Proofs.Dictionary.Lookup

/-!
# What a merge patch changes

A patch that names no key twice can be read off one key at a time. It follows that a patch leaves
alone whatever lies on a path that the patch does not name to its end.
-/

namespace ClusterLinks

namespace Json

/-- What lies at the end of a path of keys. -/
def at? : List String → Json → Option Json
  | [], value => some value
  | key :: rest, value => (value.get? key).bind (at? rest)

@[simp] theorem get?_object (key : String) (entries : Entries Json) :
    (object entries).get? key = entries.get? key := rfl

theorem get?_eq_get?_entries (key : String) (value : Json) :
    (value.entries?.getD []).get? key = value.get? key := by
  cases value <;> rfl

theorem entries?_eq_some_iff {value : Json} {entries : Entries Json} :
    value.entries? = some entries ↔ value = .object entries := by
  cases value <;> simp [entries?]

/-! ## Canonical documents -/

private theorem canonicalEntries_eq (entries : Entries Json) :
    canonicalEntries entries = entries.map fun entry => (entry.1, entry.2.canonical) := by
  induction entries with
  | nil => rfl
  | cons entry rest ih =>
      rcases entry with ⟨key, value⟩
      rw [canonicalEntries, ih]
      rfl

theorem ordered_of_canonical {entries : Entries Json}
    (canonical : (object entries).canonical = object entries) : entries.Ordered := by
  rw [Json.canonical, object.injEq] at canonical
  rw [← canonical]
  exact Entries.ordered_order _

/-- What a canonical document holds is canonical. -/
theorem canonical_of_get? {value item : Json} {key : String} (canonical : value.canonical = value)
    (found : value.get? key = some item) : item.canonical = item := by
  rcases Option.bind_eq_some_iff.mp found with ⟨entries, isObject, member⟩
  rw [entries?_eq_some_iff] at isObject
  subst isObject
  have ordered := ordered_of_canonical canonical
  rw [Json.canonical, object.injEq, canonicalEntries_eq,
    (Entries.ordered_map_iff.mpr ordered).order_eq] at canonical
  have again : Entries.get? key entries = (Entries.get? key entries).map Json.canonical := by
    conv_lhs => rw [← canonical]
    exact Entries.get?_map _ _ _
  rw [member, Option.map_some, Option.some.injEq] at again
  exact again.symm

/-- The items of a canonical list are canonical. -/
theorem canonical_of_mem {items : List Json} {item : Json}
    (canonical : (array items).canonical = array items) (member : item ∈ items) :
    item.canonical = item := by
  rw [Json.canonical, array.injEq] at canonical
  induction items with
  | nil => cases member
  | cons first rest ih =>
      rw [canonicalItems, List.cons.injEq] at canonical
      rcases List.mem_cons.mp member with rfl | later
      · exact canonical.1
      · exact ih canonical.2 later

mutual
/-- A canonical form is its own canonical form. -/
theorem canonical_canonical : (value : Json) → value.canonical.canonical = value.canonical
  | .array items => by
      rw [canonical, canonical, canonicalItems_canonicalItems items]
  | .object entries => by
      have unchanged : canonicalEntries (Entries.order (canonicalEntries entries)) =
          Entries.order (canonicalEntries entries) := by
        rw [canonicalEntries_eq]
        conv_rhs => rw [← List.map_id (Entries.order _)]
        apply List.map_congr_left
        intro entry member
        have again := canonical_of_mem_canonicalEntries entries entry
          (Entries.mem_of_mem_order member)
        rw [again]
        rfl
      rw [canonical, canonical, unchanged, (Entries.ordered_order _).order_eq]
  | .null => rfl
  | .bool _ => rfl
  | .integer _ => rfl
  | .decimal _ _ => rfl
  | .string _ => rfl

theorem canonicalItems_canonicalItems : (items : List Json) →
    canonicalItems (canonicalItems items) = canonicalItems items
  | [] => rfl
  | value :: rest => by
      rw [canonicalItems, canonicalItems, canonical_canonical value,
        canonicalItems_canonicalItems rest]

theorem canonical_of_mem_canonicalEntries : (entries : Entries Json) →
    ∀ entry ∈ canonicalEntries entries, entry.2.canonical = entry.2
  | [] => fun _ member => by cases member
  | (key, value) :: rest => by
      intro entry member
      rw [canonicalEntries] at member
      rcases List.mem_cons.mp member with rfl | later
      · exact canonical_canonical value
      · exact canonical_of_mem_canonicalEntries rest entry later
end

/-! ## Keys -/

@[simp] theorem mergePatch_string (target : Json) (text : String) :
    target.mergePatch (.string text) = .string text := by
  simp [mergePatch]

@[simp] theorem mergePatch_array (target : Json) (items : List Json) :
    target.mergePatch (.array items) = .array items := by
  simp [mergePatch]

theorem mergePatch_object (target : Json) (changes : Entries Json) :
    target.mergePatch (.object changes) =
      .object (mergeEntries (target.entries?.getD []) changes) := by
  rw [mergePatch]

/-- A change that is not `null` is merged into what is there. -/
theorem mergeEntries_cons {change : Json} (notNull : change ≠ .null) (key : String)
    (target rest : Entries Json) :
    mergeEntries target ((key, change) :: rest) =
      mergeEntries (target.insert key (mergePatch ((target.get? key).getD .null) change)) rest := by
  rw [mergeEntries]
  exact notNull

/-- What a patch that names no key twice makes of one entry. -/
theorem get?_mergeEntries {changes : Entries Json} (distinct : changes.Distinct)
    (target : Entries Json) (key : String) :
    (mergeEntries target changes).get? key =
      match changes.get? key with
      | none => target.get? key
      | some .null => none
      | some change => some (mergePatch ((target.get? key).getD .null) change) := by
  induction changes generalizing target with
  | nil => rw [mergeEntries, Entries.get?_nil]
  | cons entry rest ih =>
      rcases entry with ⟨other, change⟩
      rcases List.nodup_cons.mp distinct with ⟨fresh, restDistinct⟩
      have absent : Entries.get? other rest = none := by
        apply Entries.get?_eq_none_iff.mpr
        intro entry member equalKeys
        exact fresh (List.mem_map.mpr ⟨entry, member, equalKeys⟩)
      rw [Entries.get?_cons]
      by_cases null : change = .null
      · subst null
        rw [mergeEntries, ih restDistinct, Entries.get?_erase]
        by_cases equal : key = other
        · simp [equal, absent]
        · simp [equal]
      · rw [mergeEntries_cons null, ih restDistinct, Entries.get?_insert]
        by_cases equal : key = other
        · subst equal
          simp only [absent, ↓reduceIte]
        · simp [equal]

/-- The entries of the object under a key, none if there is something else. -/
def under (key : String) (entries : Entries Json) : Entries Json :=
  ((entries.get? key).getD .null).entries?.getD []

theorem under_of_get? {key : String} {entries inner : Entries Json}
    (found : entries.get? key = some (.object inner)) : under key entries = inner := by
  rw [under, found]
  rfl

theorem under_congr {key : String} {entries entries' : Entries Json}
    (same : entries'.get? key = entries.get? key) : under key entries' = under key entries := by
  rw [under, under, same]

/-- Changes that are an object themselves are merged one level down. -/
theorem get?_mergeEntries_object {changes inner : Entries Json} (distinct : changes.Distinct)
    {key : String} (changed : changes.get? key = some (.object inner)) (target : Entries Json) :
    (mergeEntries target changes).get? key =
      some (.object (mergeEntries (under key target) inner)) := by
  rw [get?_mergeEntries distinct, changed]
  exact congrArg some (mergePatch_object _ _)

/-- Merging keeps the keys in order. -/
theorem ordered_mergeEntries {target : Entries Json} (ordered : target.Ordered)
    (changes : Entries Json) : (mergeEntries target changes).Ordered := by
  induction changes generalizing target with
  | nil => simpa only [mergeEntries] using ordered
  | cons entry rest ih =>
      rcases entry with ⟨key, change⟩
      by_cases null : change = .null
      · subst null
        rw [mergeEntries]
        exact ih (ordered.erase key)
      · rw [mergeEntries_cons null]
        exact ih (ordered.insert key _)

/-! ## Paths -/

/-- The patch stops short of naming the end of the path, or anything on the way to it. -/
def Spares (patch : Json) : List String → Prop
  | [] => False
  | key :: rest =>
      ∃ changes : Entries Json, patch = .object changes ∧ changes.Distinct ∧
        ∀ change, changes.get? key = some change → Spares change rest

theorem spares_object {changes : Entries Json} {key : String} {rest : List String}
    (distinct : changes.Distinct)
    (below : ∀ change, changes.get? key = some change → change.Spares rest) :
    (object changes).Spares (key :: rest) :=
  ⟨changes, rfl, distinct, below⟩

/-- What is spared stays as it is, absent or not. -/
theorem at?_mergePatch {patch : Json} {path : List String} (spared : patch.Spares path)
    (target : Json) : (target.mergePatch patch).at? path = target.at? path := by
  induction path generalizing patch target with
  | nil => exact spared.elim
  | cons key rest ih =>
      rcases spared with ⟨changes, rfl, distinct, spares⟩
      rw [at?, at?, mergePatch_object, get?_object, get?_mergeEntries distinct,
        get?_eq_get?_entries]
      cases named : changes.get? key with
      | none => rfl
      | some change =>
          have sparedBelow := spares change named
          cases rest with
          | nil => exact sparedBelow.elim
          | cons next further =>
              rcases sparedBelow with ⟨inner, rfl, -⟩
              have below := ih (spares _ named) ((target.get? key).getD .null)
              simp only [Option.bind_some, below]
              cases target.get? key <;> rfl

end Json

end ClusterLinks
