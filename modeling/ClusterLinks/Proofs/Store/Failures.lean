import ClusterLinks.Proofs.Store.Shelf
import ClusterLinks.Store.Scope

/-!
# Stores that may fail

A store keeps its clusters in some part of its world. A reliable one does to them what is done to a
shelf. An unreliable one does the same or fails, and then it does nothing. Loading and closing a
scope is described by what is on the shelf afterwards, so nothing that builds on it has to look at
single calls.
-/

namespace ClusterLinks

variable {World Inner α β : Type}

namespace Action

/-- Two actions in a row end with the failure of the first one or go on with its value. -/
theorem bind_cases (action : Action World α) (next : α → Action World β) (world : World) :
    (∃ error, (action world).1 = .error error ∧
        (action >>= next) world = (.error error, (action world).2)) ∨
      ∃ value, (action world).1 = .ok value ∧
        (action >>= next) world = next value (action world).2 := by
  rw [bind_run]
  rcases action world with ⟨error | value, after⟩
  · exact .inl ⟨error, rfl, rfl⟩
  · exact .inr ⟨value, rfl, rfl⟩

/-- Two actions in a row succeed exactly if the first one does and the second one does after it. -/
theorem bind_eq_ok_iff {action : Action World α} {next : α → Action World β} {world : World}
    {value : β} : ((action >>= next) world).1 = .ok value ↔ ∃ first during,
      action world = (.ok first, during) ∧ (next first during).1 = .ok value := by
  constructor
  · intro succeeds
    rcases bind_cases action next world with ⟨error, -, run⟩ | ⟨first, found, run⟩
    · rw [run] at succeeds
      cases succeeds
    · rw [run] at succeeds
      exact ⟨first, _, Prod.ext found rfl, succeeds⟩
  · intro ⟨first, during, found, succeeds⟩
    rwa [bind_of_ok found]

/-- Two actions in a row succeed only if the first one does. -/
theorem exists_of_bind_ok {action : Action World α} {next : α → Action World β} {world : World}
    {value : β} (succeeds : ((action >>= next) world).1 = .ok value) :
    ∃ first, (action world).1 = .ok first := by
  obtain ⟨first, during, found, -⟩ := bind_eq_ok_iff.mp succeeds
  exact ⟨first, congrArg Prod.fst found⟩

/-- The action does to a part of the world what the model does, with the same result. -/
def Mirrors (action : Action World α) (view : World → Inner) (model : Action Inner α)
    (world : World) : Prop :=
  (action world).1 = (model (view world)).1 ∧ view (action world).2 = (model (view world)).2

/-- The action fails and leaves a part of the world as it is. -/
def FailsQuietly (action : Action World α) (view : World → Inner) (world : World) : Prop :=
  (∃ error, (action world).1 = .error error) ∧ view (action world).2 = view world

end Action

namespace ClusterStore

/-- Every call does what it does to a shelf. -/
structure IsReliable (view : World → Shelf) (store : ClusterStore World) : Prop where
  get : ∀ key world, (store.get key).Mirrors view (Shelf.store.get key) world
  persist : ∀ before after world,
    (store.persist before after).Mirrors view (Shelf.store.persist before after) world
  addFinalizer : ∀ key finalizer world,
    (store.addFinalizer key finalizer).Mirrors view (Shelf.store.addFinalizer key finalizer) world
  removeFinalizer : ∀ key finalizer world,
    (store.removeFinalizer key finalizer).Mirrors view (Shelf.store.removeFinalizer key finalizer)
      world

/-- Every call does what it does to a shelf, or it fails and does nothing. -/
structure IsUnreliable (view : World → Shelf) (store : ClusterStore World) : Prop where
  get : ∀ key world,
    (store.get key).Mirrors view (Shelf.store.get key) world ∨
      (store.get key).FailsQuietly view world
  persist : ∀ before after world,
    (store.persist before after).Mirrors view (Shelf.store.persist before after) world ∨
      (store.persist before after).FailsQuietly view world
  addFinalizer : ∀ key finalizer world,
    (store.addFinalizer key finalizer).Mirrors view (Shelf.store.addFinalizer key finalizer)
        world ∨
      (store.addFinalizer key finalizer).FailsQuietly view world
  removeFinalizer : ∀ key finalizer world,
    (store.removeFinalizer key finalizer).Mirrors view (Shelf.store.removeFinalizer key finalizer)
        world ∨
      (store.removeFinalizer key finalizer).FailsQuietly view world

variable {view : World → Shelf} {store : ClusterStore World}

theorem IsReliable.isUnreliable (reliable : store.IsReliable view) : store.IsUnreliable view where
  get key world := .inl (reliable.get key world)
  persist before after world := .inl (reliable.persist before after world)
  addFinalizer key finalizer world := .inl (reliable.addFinalizer key finalizer world)
  removeFinalizer key finalizer world := .inl (reliable.removeFinalizer key finalizer world)

/-- A shelf that is part of a larger world is reliable. -/
theorem isReliable_within (view : World → Shelf) (put : Shelf → World → World)
    (view_put : ∀ shelf world, view (put shelf world) = shelf) :
    (Shelf.store.within view put).IsReliable view where
  get _ _ := ⟨rfl, view_put _ _⟩
  persist _ _ _ := ⟨rfl, view_put _ _⟩
  addFinalizer _ _ _ := ⟨rfl, view_put _ _⟩
  removeFinalizer _ _ _ := ⟨rfl, view_put _ _⟩

/-- An announcement that leaves the clusters alone makes every call either go ahead or fail. -/
theorem IsReliable.announcing (reliable : store.IsReliable view)
    {announce : StoreCall → Action World Unit}
    (quiet : ∀ call world, view (announce call world).2 = view world) :
    (store.announcing announce).IsUnreliable view := by
  have either {α : Type} {model : Action Shelf α} {action : Action World α}
      (mirrors : ∀ world, action.Mirrors view model world) (call : StoreCall) (world : World) :
      Action.Mirrors (announce call >>= fun _ => action) view model world ∨
        Action.FailsQuietly (announce call >>= fun _ => action) view world := by
    have same := quiet call world
    cases announced : announce call world with
    | mk result after =>
      rw [announced] at same
      cases result with
      | ok done =>
          refine .inl ?_
          have mirrored := mirrors after
          rw [Action.Mirrors, same] at mirrored
          rwa [Action.Mirrors, Action.bind_of_ok announced]
      | error error =>
          refine .inr ?_
          rw [Action.FailsQuietly, Action.bind_of_error announced]
          exact ⟨⟨error, rfl⟩, same⟩
  exact
    { get := fun key => either (reliable.get key) _
      persist := fun before after => either (reliable.persist before after) _
      addFinalizer := fun key finalizer => either (reliable.addFinalizer key finalizer) _
      removeFinalizer := fun key finalizer => either (reliable.removeFinalizer key finalizer) _ }

end ClusterStore

/-- A shelf with a list that says which of the next calls fail. -/
structure FlakyShelf where
  shelf : Shelf
  faults : List Bool

namespace FlakyShelf

/-- The store without faults. -/
def clean : ClusterStore FlakyShelf :=
  Shelf.store.within (·.shelf) fun shelf world => { world with shelf }

/-- Whether the next call fails. -/
def announce (_ : StoreCall) : Action FlakyShelf Unit := fun world =>
  match world.faults with
  | [] => (.ok (), world)
  | false :: faults => (.ok (), { world with faults })
  | true :: faults => (.error (.kubernetes (.failed "connection reset")), { world with faults })

def store : ClusterStore FlakyShelf :=
  clean.announcing announce

theorem isReliable_clean : clean.IsReliable (·.shelf) :=
  ClusterStore.isReliable_within _ _ fun _ _ => rfl

theorem isUnreliable_store : store.IsUnreliable (·.shelf) := by
  apply isReliable_clean.announcing
  intro call world
  unfold announce
  split <;> rfl

end FlakyShelf

/-! ## Scopes -/

namespace ClusterScope

variable {view : World → Shelf} {store : ClusterStore World}

theorem load_of_isReliable (reliable : store.IsReliable view) (key : ObjectKey) (world : World) :
    (load store key world).1 = .ok (((view world).get? key).map ofCluster) ∧
      view (load store key world).2 = view world := by
  rcases reliable.get key world with ⟨result, kept⟩
  cases answer : store.get key world with
  | mk found after =>
    rw [answer] at result kept
    simp only at result kept
    subst result
    rw [load, Action.bind_of_ok answer]
    exact ⟨rfl, kept⟩

/-- Loading changes nothing, and what it finds is there. -/
theorem load_of_isUnreliable (unreliable : store.IsUnreliable view) (key : ObjectKey)
    (world : World) :
    ((load store key world).1 = .ok (((view world).get? key).map ofCluster) ∨
        ∃ error, (load store key world).1 = .error error) ∧
      view (load store key world).2 = view world := by
  cases answer : store.get key world with
  | mk found after =>
    rcases unreliable.get key world with ⟨result, kept⟩ | ⟨⟨error, result⟩, kept⟩
    · rw [answer] at result kept
      simp only at result kept
      subst result
      rw [load, Action.bind_of_ok answer]
      exact ⟨.inl rfl, kept⟩
    · rw [answer] at result kept
      simp only at result kept
      subst result
      rw [load, Action.bind_of_error answer]
      exact ⟨.inr ⟨error, rfl⟩, kept⟩

/-- Closing a scope keeps the cluster as it is now. -/
theorem close_of_isReliable (reliable : store.IsReliable view) (scope : ClusterScope)
    {world : World} {key : ObjectKey} (there : (view world).get? key = some scope.loaded) :
    (scope.close store world).1 = .ok () ∧
      view (scope.close store world).2 = (view world).put scope.current := by
  unfold close isDirty
  by_cases clean : scope.loaded = scope.current
  · simp only [clean, ne_eq, not_true_eq_false, decide_false, Bool.false_eq_true, ↓reduceIte,
      Action.pure_run, true_and]
    rw [clean] at there
    exact (Shelf.put_of_get? there).symm
  · simp only [clean, ne_eq, not_false_eq_true, decide_true, ↓reduceIte]
    exact reliable.persist _ _ world

/-- Closing a scope keeps the cluster as it is now, or it fails and keeps it as it was. -/
theorem close_of_isUnreliable (unreliable : store.IsUnreliable view) (scope : ClusterScope)
    {world : World} {key : ObjectKey} (there : (view world).get? key = some scope.loaded) :
    ((scope.close store world).1 = .ok () ∧
        view (scope.close store world).2 = (view world).put scope.current) ∨
      (∃ error, (scope.close store world).1 = .error error) ∧
        view (scope.close store world).2 = (view world).put scope.loaded := by
  have unchanged : (view world).put scope.loaded = view world := Shelf.put_of_get? there
  unfold close isDirty
  by_cases clean : scope.loaded = scope.current
  · refine .inl ?_
    simp only [clean, ne_eq, not_true_eq_false, decide_false, Bool.false_eq_true, ↓reduceIte,
      Action.pure_run, true_and]
    rw [← clean]
    exact unchanged.symm
  · simp only [clean, ne_eq, not_false_eq_true, decide_true, ↓reduceIte]
    rcases unreliable.persist scope.loaded scope.current world with made | ⟨fails, kept⟩
    · exact .inl made
    · exact .inr ⟨fails, kept.trans unchanged.symm⟩

end ClusterScope

end ClusterLinks
