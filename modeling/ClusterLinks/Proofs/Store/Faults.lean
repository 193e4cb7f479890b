import ClusterLinks.Proofs.Store.Records

/-!
# Calls among others

Others may have been at the clusters when a call arrives, and a call that fails may have taken
effect all the same. An action upholds what is fit if the clusters are fit after every call that it
makes, whether it succeeds or not. Such actions are put together call by call: what a call relies
on has to survive what others do, and what it makes of that has to be fit.
-/

namespace ClusterLinks

variable {World α β : Type} {others : Shelf → Shelf → Prop} {view : World → Shelf}

namespace Action

/-- Others have been at the clusters. Then the action does to them what the model does, or it fails,
with effect or without. -/
def IsFaulty (action : Action World α) (others : Shelf → Shelf → Prop) (view : World → Shelf)
    (model : Action Shelf α) : Prop :=
  ∀ world, ∃ shelf, others (view world) shelf ∧
    ((action world).1 = (model shelf).1 ∧ view (action world).2 = (model shelf).2 ∨
      (∃ error, (action world).1 = .error error) ∧
        (view (action world).2 = shelf ∨ view (action world).2 = (model shelf).2))

/-- An action that mirrors the model or fails quietly is a faulty one that nobody disturbs. -/
theorem isFaulty_of_cases {action : Action World α} {model : Action Shelf α}
    (alone : ∀ shelf, others shelf shelf)
    (either : ∀ world, action.Mirrors view model world ∨ action.FailsQuietly view world) :
    action.IsFaulty others view model := by
  intro world
  refine ⟨view world, alone _, ?_⟩
  cases either world with
  | inl mirrors => exact .inl mirrors
  | inr fails => exact .inr ⟨fails.1, .inl fails.2⟩

end Action

namespace ClusterStore

/-- Every call does what it does to a shelf, or it fails, with effect or without; and others may
have been at the clusters before. -/
structure IsFaulty (others : Shelf → Shelf → Prop) (view : World → Shelf)
    (store : ClusterStore World) : Prop where
  get : ∀ key, (store.get key).IsFaulty others view (Shelf.store.get key)
  persist : ∀ before after,
    (store.persist before after).IsFaulty others view (Shelf.store.persist before after)
  addFinalizer : ∀ key finalizer,
    (store.addFinalizer key finalizer).IsFaulty others view
      (Shelf.store.addFinalizer key finalizer)
  removeFinalizer : ∀ key finalizer,
    (store.removeFinalizer key finalizer).IsFaulty others view
      (Shelf.store.removeFinalizer key finalizer)

/-- An unreliable store is a faulty one that nobody disturbs. -/
theorem IsUnreliable.isFaulty {store : ClusterStore World} (unreliable : store.IsUnreliable view)
    (alone : ∀ shelf, others shelf shelf) : store.IsFaulty others view where
  get key := Action.isFaulty_of_cases alone (unreliable.get key)
  persist before after := Action.isFaulty_of_cases alone (unreliable.persist before after)
  addFinalizer key finalizer :=
    Action.isFaulty_of_cases alone (unreliable.addFinalizer key finalizer)
  removeFinalizer key finalizer :=
    Action.isFaulty_of_cases alone (unreliable.removeFinalizer key finalizer)

end ClusterStore

/-! ## What an action upholds -/

namespace Shelf

/-- What others do does not change that the clusters are as they should be. -/
def IsStable (others : Shelf → Shelf → Prop) (pre : Shelf → Prop) : Prop :=
  ∀ ⦃before after⦄, others before after → pre before → pre after

theorem isStable_true : IsStable others fun _ => True :=
  fun _ _ _ => id

end Shelf

/-- The clusters were fit after every call on record, and they are fit now. -/
structure Recorded.IsFit (view : World → Shelf) (fit : Shelf → Prop) (recorded : Recorded World) :
    Prop where
  logged : ∀ record ∈ recorded.calls, fit record.shelf
  now : fit (view recorded.world)

namespace Action

/-- Where the clusters are fit and meet the precondition, the action leaves nothing that is not fit,
and if it succeeds, the clusters meet the postcondition. -/
def Upholds (action : Action (Recorded World) α) (view : World → Shelf) (fit pre : Shelf → Prop)
    (post : α → Shelf → Prop) : Prop :=
  ∀ recorded, recorded.IsFit view fit → pre (view recorded.world) →
    (action recorded).2.IsFit view fit ∧
      ∀ value, (action recorded).1 = .ok value → post value (view (action recorded).2.world)

namespace Upholds

variable {fit pre pre' : Shelf → Prop} {action : Action (Recorded World) α}
variable {post : α → Shelf → Prop} {next : α → Action (Recorded World) β}
variable {last : β → Shelf → Prop}

/-- What makes no call upholds everything. -/
theorem ofExcept {result : Except Error α}
    (meets : ∀ value, result = .ok value → ∀ shelf, fit shelf → pre shelf → post value shelf) :
    (Action.ofExcept result : Action (Recorded World) α).Upholds view fit pre post :=
  fun _ isFit holds => ⟨isFit, fun value succeeds => meets value succeeds _ isFit.now holds⟩

theorem pure {value : α} (meets : ∀ shelf, fit shelf → pre shelf → post value shelf) :
    (Pure.pure value : Action (Recorded World) α).Upholds view fit pre post :=
  ofExcept fun _ same => Except.ok.inj same ▸ meets

theorem fail (error : Error) :
    (Action.fail error : Action (Recorded World) α).Upholds view fit pre post :=
  ofExcept fun _ succeeds => nomatch succeeds

theorem bind (first : action.Upholds view fit pre post)
    (rest : ∀ value, (next value).Upholds view fit (post value) last) :
    (action >>= next).Upholds view fit pre last := by
  intro recorded isFit holds
  obtain ⟨isFit', meets⟩ := first recorded isFit holds
  cases bind_cases action next recorded with
  | inl fails =>
      obtain ⟨error, -, ends⟩ := fails
      rw [ends]
      exact ⟨isFit', fun _ succeeds => nomatch succeeds⟩
  | inr succeeds =>
      obtain ⟨value, found, goesOn⟩ := succeeds
      rw [goesOn]
      exact rest value _ isFit' (meets value found)

theorem of_imp (upholds : action.Upholds view fit pre' post)
    (imp : ∀ shelf, fit shelf → pre shelf → pre' shelf) : action.Upholds view fit pre post :=
  fun recorded isFit holds => upholds recorded isFit (imp _ isFit.now holds)

/-- An action that is attempted cannot fail, but it may have failed. -/
theorem attempt (upholds : action.Upholds view fit pre post) :
    action.attempt.Upholds view fit pre fun result shelf =>
      ∀ value, result = .ok value → post value shelf := by
  intro recorded isFit holds
  obtain ⟨isFit', meets⟩ := upholds recorded isFit holds
  refine ⟨isFit', ?_⟩
  intro result attempted
  cases attempted
  exact meets

/-- A call upholds what is fit if others do so, too, and if they leave alone what it relies on. -/
theorem call {action : Action World α} {model : Action Shelf α} {call : StoreCall}
    {found? : α → Option Cluster} (faulty : action.IsFaulty others view model)
    (stableFit : Shelf.IsStable others fit) (stable : Shelf.IsStable others pre)
    (made : ∀ shelf, fit shelf → pre shelf → fit (model shelf).2)
    (meets : ∀ shelf value, fit shelf → pre shelf → (model shelf).1 = .ok value →
      post value (model shelf).2) :
    (Recorded.call view call found? action).Upholds view fit pre post := by
  intro recorded isFit holds
  obtain ⟨shelf, disturbed, outcome⟩ := faulty recorded.world
  have fits := stableFit disturbed isFit.now
  have holds' := stable disturbed holds
  -- Whatever the outcome, the clusters are what others have left or what the model makes of that.
  have fitAfter : fit (view (action recorded.world).2) := by
    obtain ⟨-, kept⟩ | ⟨-, kept | kept⟩ := outcome
    · exact kept ▸ made shelf fits holds'
    · exact kept ▸ fits
    · exact kept ▸ made shelf fits holds'
  refine ⟨⟨?_, fitAfter⟩, ?_⟩
  · intro record member
    cases List.mem_append.mp member with
    | inl before => exact isFit.logged record before
    | inr added =>
        rw [List.mem_singleton] at added
        exact added ▸ fitAfter
  · intro value succeeds
    change (action recorded.world).1 = _ at succeeds
    change post value (view (action recorded.world).2)
    cases outcome with
    | inl mirrors =>
        rw [mirrors.2]
        exact meets shelf value fits holds' (mirrors.1.symm.trans succeeds)
    | inr fails =>
        obtain ⟨⟨error, fails⟩, -⟩ := fails
        cases succeeds.symm.trans fails

/-- A call without an answer upholds what is fit if what it makes of that is fit, too. -/
theorem change {action : Action World Unit} {change : Shelf → Shelf} {call : StoreCall}
    {found? : Unit → Option Cluster} {post : Shelf → Prop}
    (faulty : action.IsFaulty others view (.modify change))
    (stableFit : Shelf.IsStable others fit) (stable : Shelf.IsStable others pre)
    (made : ∀ shelf, fit shelf → pre shelf → fit (change shelf) ∧ post (change shelf)) :
    (Recorded.call view call found? action).Upholds view fit pre fun _ => post := by
  apply Upholds.call faulty stableFit stable
  · intro shelf fits holds
    exact (made shelf fits holds).1
  · intro shelf _ fits holds _
    exact (made shelf fits holds).2

end Upholds

end Action

/-! ## Scopes -/

namespace ClusterStore.IsFaulty

variable {store : ClusterStore World} {fit pre post : Shelf → Prop}

/-- What is loaded was there when it was loaded. -/
theorem upholds_load (faulty : store.IsFaulty others view) (stableFit : Shelf.IsStable others fit)
    (stable : Shelf.IsStable others pre) (key : ObjectKey) :
    (ClusterScope.load (store.recorded view) key).Upholds view fit pre fun scope? shelf =>
      pre shelf ∧ (shelf.get? key).map .ofCluster = scope? := by
  have gets : ((store.recorded view).get key).Upholds view fit pre fun found? shelf =>
      pre shelf ∧ shelf.get? key = found? := by
    apply Action.Upholds.call (faulty.get key) stableFit stable
    · intro shelf fits holds
      exact fits
    · intro shelf found? fits holds found
      exact ⟨holds, Except.ok.inj found⟩
  apply gets.bind
  intro found?
  apply Action.Upholds.pure
  intro shelf fits found
  exact ⟨found.1, congrArg _ found.2⟩

/-- Closing a scope that has changed keeps the cluster as it is now; otherwise there is no call. -/
theorem upholds_close (faulty : store.IsFaulty others view)
    (stableFit : Shelf.IsStable others fit) (stable : Shelf.IsStable others pre)
    (scope : ClusterScope)
    (changed : ∀ shelf, fit shelf → pre shelf →
      fit (shelf.put scope.current) ∧ post (shelf.put scope.current))
    (unchanged : scope.loaded = scope.current → ∀ shelf, fit shelf → pre shelf → post shelf) :
    (scope.close (store.recorded view)).Upholds view fit pre fun _ => post := by
  unfold ClusterScope.close ClusterScope.isDirty
  by_cases clean : scope.loaded = scope.current
  · rw [if_neg (by simp [clean])]
    exact Action.Upholds.pure (unchanged clean)
  · rw [if_pos (by simp [clean])]
    exact Action.Upholds.change (faulty.persist scope.loaded scope.current) stableFit stable changed

end ClusterStore.IsFaulty

end ClusterLinks
