import ClusterLinks.Endpoint.Directory
import Mathlib.Data.List.Nodup

/-!
# Lists of endpoints

Endpoints are found, added and removed by name alone. As long as no name occurs twice, removing a
name takes exactly the endpoints that bear it, and adding a row of endpoints can be described by
membership: what was there, and the first newcomer for each name that was free.
-/

namespace ClusterLinks.Endpoints

variable {endpoints wanted : List PrivateEndpoint} {endpoint : PrivateEndpoint} {name : String}

/-- No two endpoints share a name. -/
def UniqueNames (endpoints : List PrivateEndpoint) : Prop :=
  (endpoints.map (·.name)).Nodup

instance (endpoints : List PrivateEndpoint) : Decidable (UniqueNames endpoints) :=
  inferInstanceAs (Decidable (endpoints.map (·.name)).Nodup)

theorem UniqueNames.eq_of_name (unique : UniqueNames endpoints) {left right : PrivateEndpoint}
    (leftMember : left ∈ endpoints) (rightMember : right ∈ endpoints)
    (equal : left.name = right.name) : left = right :=
  List.inj_on_of_nodup_map unique leftMember rightMember equal

theorem UniqueNames.sublist {fewer : List PrivateEndpoint} (unique : UniqueNames endpoints)
    (part : fewer.Sublist endpoints) : UniqueNames fewer :=
  List.Nodup.sublist (part.map _) unique

theorem UniqueNames.nodup (unique : UniqueNames endpoints) : endpoints.Nodup :=
  List.Nodup.of_map _ unique

theorem has_iff : has name endpoints = true ↔ ∃ endpoint ∈ endpoints, endpoint.name = name := by
  simp [has]

theorem has_eq_false_iff :
    has name endpoints = false ↔ ∀ endpoint ∈ endpoints, endpoint.name ≠ name := by
  simp [has]

/-! ## Adding -/

theorem add_of_has (taken : has endpoint.name endpoints = true) :
    add endpoint endpoints = endpoints := by
  simp [add, taken]

theorem mem_add {newcomer : PrivateEndpoint} :
    endpoint ∈ add newcomer endpoints ↔
      endpoint ∈ endpoints ∨ has newcomer.name endpoints = false ∧ endpoint = newcomer := by
  unfold add
  cases taken : has newcomer.name endpoints <;> simp

@[simp] theorem has_add {newcomer : PrivateEndpoint} :
    has name (add newcomer endpoints) = (has name endpoints || newcomer.name == name) := by
  unfold add
  cases taken : has newcomer.name endpoints with
  | false => simp [has]
  | true =>
      by_cases equal : newcomer.name = name
      · simp [← equal, taken]
      · simp [equal]

theorem UniqueNames.add (unique : UniqueNames endpoints) (newcomer : PrivateEndpoint) :
    UniqueNames (add newcomer endpoints) := by
  unfold Endpoints.add
  cases taken : has newcomer.name endpoints with
  | true => exact unique
  | false =>
      simp only [UniqueNames, Bool.false_eq_true, ↓reduceIte, List.map_append,
        List.nodup_append]
      refine ⟨unique, by simp, ?_⟩
      intro present member fresh newcomerName equal
      rcases List.mem_map.mp member with ⟨endpoint, endpointMember, rfl⟩
      simp only [List.map_cons, List.map_nil, List.mem_singleton] at newcomerName
      exact has_eq_false_iff.mp taken endpoint endpointMember (equal.trans newcomerName)

@[simp] theorem add_add : add endpoint (add endpoint endpoints) = add endpoint endpoints :=
  add_of_has (by simp)

/-- Adds the endpoints one after the other, each unless its name is taken by then. -/
def addAll (wanted endpoints : List PrivateEndpoint) : List PrivateEndpoint :=
  wanted.foldl (fun kept endpoint => add endpoint kept) endpoints

@[simp] theorem addAll_nil : addAll [] endpoints = endpoints := rfl

@[simp] theorem addAll_cons (first : PrivateEndpoint) (rest : List PrivateEndpoint) :
    addAll (first :: rest) endpoints = addAll rest (add first endpoints) := rfl

@[simp] theorem has_addAll :
    has name (addAll wanted endpoints) = (has name endpoints || has name wanted) := by
  induction wanted generalizing endpoints with
  | nil => simp [has]
  | cons first rest ih =>
      rw [addAll_cons, ih, has_add, Bool.or_assoc]
      rfl

theorem UniqueNames.addAll (unique : UniqueNames endpoints) (wanted : List PrivateEndpoint) :
    UniqueNames (addAll wanted endpoints) := by
  induction wanted generalizing endpoints with
  | nil => exact unique
  | cons first rest ih => exact ih (unique.add first)

/-- Adding changes nothing once every name is taken. -/
theorem addAll_of_has (taken : ∀ endpoint ∈ wanted, has endpoint.name endpoints = true) :
    addAll wanted endpoints = endpoints := by
  induction wanted with
  | nil => rfl
  | cons first rest ih =>
      rw [addAll_cons, add_of_has (taken first (by simp))]
      exact ih fun endpoint member => taken endpoint (by simp [member])

theorem addAll_append (early late endpoints : List PrivateEndpoint) :
    addAll (early ++ late) endpoints = addAll late (addAll early endpoints) :=
  List.foldl_append

/-- What was added already is not added again. -/
theorem addAll_of_prefix {early : List PrivateEndpoint} (part : early <+: wanted)
    (endpoints : List PrivateEndpoint) :
    addAll early (addAll wanted endpoints) = addAll wanted endpoints := by
  apply addAll_of_has
  intro endpoint member
  rw [has_addAll, has_iff.mpr ⟨endpoint, part.subset member, rfl⟩, Bool.or_true]

/-- It does not matter whether the first ones were added before. -/
theorem addAll_addAll_of_prefix {early : List PrivateEndpoint} (part : early <+: wanted)
    (endpoints : List PrivateEndpoint) :
    addAll wanted (addAll early endpoints) = addAll wanted endpoints := by
  obtain ⟨late, rfl⟩ := part
  rw [addAll_append, addAll_append, addAll_of_prefix (List.prefix_refl early)]

/-- Of two beginnings of a row the longer one counts. -/
theorem exists_prefix_addAll {early early' : List PrivateEndpoint} (part : early <+: wanted)
    (part' : early' <+: wanted) :
    ∃ both, both <+: wanted ∧
      ∀ endpoints, addAll early' (addAll early endpoints) = addAll both endpoints := by
  obtain shorter | longer := List.prefix_or_prefix_of_prefix part part'
  · exact ⟨early', part', addAll_addAll_of_prefix shorter⟩
  · exact ⟨early, part, addAll_of_prefix longer⟩

/-- Of several newcomers with one name the first one gets it, if it is free. -/
theorem mem_addAll :
    endpoint ∈ addAll wanted endpoints ↔
      endpoint ∈ endpoints ∨
        has endpoint.name endpoints = false ∧
          wanted.find? (·.name == endpoint.name) = some endpoint := by
  induction wanted generalizing endpoints with
  | nil => simp
  | cons first rest ih =>
      rw [addAll_cons, ih, mem_add, has_add]
      by_cases sameName : first.name = endpoint.name
      · rw [List.find?_cons_of_pos (by simp [sameName])]
        have swap : endpoint = first ↔ first = endpoint := eq_comm
        simp [sameName, swap]
      · rw [List.find?_cons_of_neg (by simp [sameName])]
        have different : endpoint ≠ first := by
          intro equal
          exact sameName (equal ▸ rfl)
        simp [sameName, different]

/-- The endpoints without those whose name occurs earlier. -/
def firsts : List PrivateEndpoint → List PrivateEndpoint
  | [] => []
  | first :: rest => first :: (firsts rest).filter (·.name != first.name)

/-- The first of the wanted endpoints for each name that is not taken. -/
def newcomers (wanted endpoints : List PrivateEndpoint) : List PrivateEndpoint :=
  (firsts wanted).filter (!has ·.name endpoints)

/-- What is added comes behind what was there, in the order in which it is wanted. -/
theorem addAll_eq (wanted endpoints : List PrivateEndpoint) :
    addAll wanted endpoints = endpoints ++ newcomers wanted endpoints := by
  induction wanted generalizing endpoints with
  | nil => simp [newcomers, firsts]
  | cons first rest ih =>
      rw [addAll_cons, ih, newcomers, newcomers, firsts]
      cases taken : has first.name endpoints with
      | true =>
          have spared : ∀ endpoint ∈ firsts rest,
              (!has endpoint.name endpoints && endpoint.name != first.name) =
                !has endpoint.name endpoints := by
            intro endpoint _
            by_cases sameName : endpoint.name = first.name
            · simp [sameName, taken]
            · simp [sameName]
          rw [add_of_has taken, List.filter_cons_of_neg (by simp [taken]), List.filter_filter,
            List.filter_congr spared]
      | false =>
          have apart : ∀ endpoint ∈ firsts rest,
              (!has endpoint.name (add first endpoints)) =
                (!has endpoint.name endpoints && endpoint.name != first.name) := by
            intro endpoint _
            rw [has_add, Bool.not_or, bne, Bool.beq_comm]
          have added : add first endpoints = endpoints ++ [first] := by
            simp [add, taken]
          rw [List.filter_congr apart, List.filter_cons_of_pos (by simp [taken]),
            List.filter_filter, added, List.append_assoc, List.singleton_append]

theorem addAll_empty (wanted : List PrivateEndpoint) : addAll wanted [] = firsts wanted := by
  rw [addAll_eq, List.nil_append, newcomers, List.filter_eq_self]
  simp [has]

/-- No two newcomers share a name, whatever was there. -/
theorem uniqueNames_newcomers (wanted endpoints : List PrivateEndpoint) :
    UniqueNames (newcomers wanted endpoints) := by
  have unique : UniqueNames (firsts wanted) := by
    have nothing : UniqueNames [] := List.nodup_nil
    rw [← addAll_empty]
    exact nothing.addAll wanted
  exact unique.sublist List.filter_sublist

theorem mem_of_mem_newcomers (new : endpoint ∈ newcomers wanted endpoints) :
    endpoint ∈ wanted := by
  have first : endpoint ∈ addAll wanted [] := by
    rw [addAll_empty]
    exact List.mem_of_mem_filter new
  obtain present | ⟨-, found⟩ := mem_addAll.mp first
  · cases present
  · exact List.mem_of_find?_eq_some found

/-! ## Removing -/

/-- Removes the names one after the other, each where it occurs first. -/
def removeNames (names : List String) (endpoints : List PrivateEndpoint) :
    List PrivateEndpoint :=
  names.foldl (fun kept name => removeByName name kept) endpoints

theorem removeNames_sublist (names : List String) (endpoints : List PrivateEndpoint) :
    (removeNames names endpoints).Sublist endpoints := by
  induction names generalizing endpoints with
  | nil => exact List.Sublist.refl _
  | cons first rest ih => exact (ih _).trans List.eraseP_sublist

theorem UniqueNames.removeByName_eq (unique : UniqueNames endpoints) (name : String) :
    removeByName name endpoints = endpoints.filter (·.name != name) := by
  unfold removeByName
  induction endpoints with
  | nil => rfl
  | cons first rest ih =>
      rcases List.nodup_cons.mp unique with ⟨fresh, restUnique⟩
      by_cases equal : first.name = name
      · have restKept : rest.filter (·.name != name) = rest := by
          apply List.filter_eq_self.mpr
          intro endpoint member
          have different : endpoint.name ≠ first.name := fun same =>
            fresh (List.mem_map.mpr ⟨endpoint, member, same⟩)
          simpa [← equal] using different
        simp [equal, restKept]
      · simp [equal, ih restUnique]

/-- Where names are unique, removing names takes exactly the endpoints that bear them. -/
theorem UniqueNames.removeNames_eq (unique : UniqueNames endpoints) (names : List String) :
    removeNames names endpoints = endpoints.filter (!names.contains ·.name) := by
  induction names generalizing endpoints with
  | nil => simp [removeNames]
  | cons first rest ih =>
      have restUnique : UniqueNames (endpoints.filter (·.name != first)) :=
        unique.sublist List.filter_sublist
      change removeNames rest (removeByName first endpoints) = _
      rw [unique.removeByName_eq, ih restUnique, List.filter_filter]
      apply List.filter_congr
      intro endpoint _
      simp [Bool.and_comm, bne, beq_eq_decide]

/-- Names that do not occur in the first endpoints are removed from the later ones. -/
theorem removeNames_append {names : List String}
    (apart : ∀ endpoint ∈ endpoints, endpoint.name ∉ names) (later : List PrivateEndpoint) :
    removeNames names (endpoints ++ later) = endpoints ++ removeNames names later := by
  induction names generalizing later with
  | nil => rfl
  | cons first rest ih =>
      have skipped : removeByName first (endpoints ++ later) =
          endpoints ++ removeByName first later := by
        apply List.eraseP_append_right
        intro endpoint member
        have different := apart endpoint member
        simp only [List.mem_cons, not_or] at different
        simp [different.1]
      change removeNames rest (removeByName first (endpoints ++ later)) = _
      rw [skipped, ih fun endpoint member among => apart endpoint member (by simp [among])]
      rfl

/-- What was added goes again with its names, if nothing bore one of them before. -/
theorem removeNames_addAll {names : List String}
    (apart : ∀ endpoint ∈ endpoints, endpoint.name ∉ names)
    (named : ∀ endpoint ∈ wanted, endpoint.name ∈ names) :
    removeNames names (addAll wanted endpoints) = endpoints := by
  have gone : removeNames names (newcomers wanted endpoints) = [] := by
    rw [(uniqueNames_newcomers wanted endpoints).removeNames_eq, List.filter_eq_nil_iff]
    intro endpoint new
    simp [named endpoint (mem_of_mem_newcomers new)]
  rw [addAll_eq, removeNames_append apart, gone, List.append_nil]

end ClusterLinks.Endpoints
