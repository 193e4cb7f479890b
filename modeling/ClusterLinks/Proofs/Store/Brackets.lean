import ClusterLinks.Proofs.Cluster.Core
import ClusterLinks.Proofs.Pass.Removal
import ClusterLinks.Proofs.Store.Faults
import Mathlib.Logic.Relation

/-!
# Finalizers around endpoints

The management cluster should have endpoints for the links of a workload cluster only while the
workload cluster has the finalizer. Others may ask for the deletion of the workload cluster, and it
goes when nobody has a finalizer on it; none of this gets in the way. What remains is to put the
management cluster back with endpoints only while the finalizer is there, and to take the finalizer
off only when the endpoints are gone.
-/

namespace ClusterLinks

open Endpoints

/-- The cluster has an endpoint that is named for one of those links that allow it. -/
def Cluster.HasEndpointFor (links : List PrivateLink) (host : Cluster) : Prop :=
  ∃ endpoint ∈ host.hostedEndpoints,
    endpoint.IsNamedFor (PrivateLink.allowing links host.spec.subscriptionId)

instance (links : List PrivateLink) (host : Cluster) : Decidable (host.HasEndpointFor links) :=
  inferInstanceAs (Decidable (∃ endpoint ∈ host.hostedEndpoints, _))

/-- The cluster when its deletion has been asked for. -/
def Cluster.requestDeletion (time : Timestamp) (cluster : Cluster) : Cluster :=
  { cluster with metadata.deletionTimestamp := some time }

@[simp] theorem Cluster.key_requestDeletion (time : Timestamp) (cluster : Cluster) :
    (cluster.requestDeletion time).key = cluster.key := rfl

theorem Cluster.HasEndpointFor.of_sublist {links : List PrivateLink} {before after : Cluster}
    (sameCore : after.core = before.core)
    (fewer : after.hostedEndpoints.Sublist before.hostedEndpoints)
    (has : after.HasEndpointFor links) : before.HasEndpointFor links := by
  have sameSubscription : after.spec.subscriptionId = before.spec.subscriptionId :=
    Cluster.eq_of_core_eq (·.spec.subscriptionId) (fun _ => rfl) sameCore
  obtain ⟨endpoint, member, named⟩ := has
  rw [sameSubscription] at named
  exact ⟨endpoint, fewer.subset member, named⟩

/-! ## Deletions by others -/

namespace Shelf

/-- The shelf without the cluster under a key. -/
def remove (shelf : Shelf) (key : ObjectKey) : Shelf where
  get? other := if other = key then none else shelf.get? other
  keyed {other cluster} there := by
    split at there
    · cases there
    · exact shelf.keyed there

/-- What may happen to the cluster with the key while nobody looks: its deletion is asked for, and
it goes once nobody has a finalizer on it. -/
inductive DeletionStep (key : ObjectKey) : Shelf → Shelf → Prop where
  | requested (shelf : Shelf) (time : Timestamp) :
      DeletionStep key shelf (shelf.change key (·.requestDeletion time))
  | completed {shelf : Shelf} {cluster : Cluster} :
      shelf.get? key = some cluster → cluster.isDeleting = true →
      cluster.metadata.finalizers.getD [] = [] → DeletionStep key shelf (shelf.remove key)

/-- Any number of such steps. -/
def DeletionSteps (key : ObjectKey) : Shelf → Shelf → Prop :=
  Relation.ReflTransGen (DeletionStep key)

variable {key other : ObjectKey} {before after : Shelf} {cluster : Cluster}

/-- What a step leaves was there before, and all that can be new is the deletion timestamp. -/
theorem DeletionStep.origin {α : Type} (step : DeletionStep key before after) (read : Cluster → α)
    (blind : ∀ cluster time, read (cluster.requestDeletion time) = read cluster)
    (there : after.get? other = some cluster) :
    ∃ original, before.get? other = some original ∧ read cluster = read original := by
  cases step with
  | requested time =>
      by_cases here : key = other
      · subst here
        rw [get?_change_self (Cluster.key_requestDeletion time), Option.map_eq_some_iff] at there
        obtain ⟨original, stored, rfl⟩ := there
        exact ⟨original, stored, blind original time⟩
      · rw [get?_change_of_ne (Cluster.key_requestDeletion time) here] at there
        exact ⟨cluster, there, rfl⟩
  | completed found deleting free =>
      by_cases here : other = key
      · simp [remove, here] at there
      · simp only [remove, here, ↓reduceIte] at there
        exact ⟨cluster, there, rfl⟩

/-- A step does not take a cluster that has a finalizer. -/
theorem DeletionStep.keeps_finalizer (step : DeletionStep key before after) {finalizer : String}
    (there : before.get? key = some cluster) (has : cluster.hasFinalizer finalizer = true) :
    ∃ cluster', after.get? key = some cluster' ∧ cluster'.hasFinalizer finalizer = true := by
  cases step with
  | requested time =>
      rw [get?_change_self (Cluster.key_requestDeletion time), there]
      exact ⟨_, rfl, has⟩
  | completed found deleting free =>
      cases there.symm.trans found
      simp [Cluster.hasFinalizer, free] at has

theorem DeletionStep.get?_of_ne (step : DeletionStep key before after) (apart : other ≠ key) :
    after.get? other = before.get? other := by
  cases step with
  | requested time => exact get?_change_of_ne (Cluster.key_requestDeletion time) (Ne.symm apart)
  | completed found deleting free => simp [remove, apart]

/-- What survives one step survives many. -/
theorem isStable_of_step {pre : Shelf → Prop}
    (survives : ∀ {before after}, DeletionStep key before after → pre before → pre after) :
    IsStable (DeletionSteps key) pre := by
  intro before after steps holds
  induction steps with
  | refl => exact holds
  | tail _ last ih => exact survives last ih

/-! ## The order of finalizer and endpoints -/

/-- The cluster with the key is there and has the finalizer. -/
def IsHeld (key : ObjectKey) (shelf : Shelf) : Prop :=
  ∃ workload, shelf.get? key = some workload ∧
    workload.hasFinalizer Conventions.finalizer = true

/-- If the cluster with the key is there, it has the finalizer. -/
def IsAdmitted (key : ObjectKey) (shelf : Shelf) : Prop :=
  ∀ workload, shelf.get? key = some workload →
    workload.hasFinalizer Conventions.finalizer = true

/-- The management cluster has no endpoints for the links. -/
def IsCleared (managementKey : ObjectKey) (links : List PrivateLink) (shelf : Shelf) : Prop :=
  ∀ management, shelf.get? managementKey = some management → ¬ management.HasEndpointFor links

/-- The finalizer is there or there are no endpoints. The workload cluster publishes these links,
and the management cluster has unique names, so that its endpoints can be taken away by name. -/
structure IsBracketed (managementKey key : ObjectKey) (links : List PrivateLink)
    (shelf : Shelf) : Prop where
  unique : ∀ management, shelf.get? managementKey = some management →
    UniqueNames management.hostedEndpoints
  declared : ∀ workload, shelf.get? key = some workload → workload.privateLinks = links
  guarded : shelf.IsHeld key ∨ shelf.IsCleared managementKey links

variable {managementKey : ObjectKey} {links : List PrivateLink} {shelf : Shelf}

theorem IsHeld.isAdmitted (held : shelf.IsHeld key) : shelf.IsAdmitted key := by
  intro workload there
  obtain ⟨held, stored, has⟩ := held
  cases there.symm.trans stored
  exact has

theorem isStable_isHeld (key : ObjectKey) : IsStable (DeletionSteps key) (IsHeld key) := by
  apply isStable_of_step
  intro before after step held
  obtain ⟨workload, there, has⟩ := held
  exact step.keeps_finalizer there has

theorem isStable_isAdmitted (key : ObjectKey) :
    IsStable (DeletionSteps key) (IsAdmitted key) := by
  apply isStable_of_step
  intro before after step admitted workload there
  obtain ⟨original, stored, same⟩ :=
    step.origin (·.hasFinalizer Conventions.finalizer) (fun _ _ => rfl) there
  exact same.trans (admitted original stored)

theorem isStable_isCleared (managementKey key : ObjectKey) (links : List PrivateLink) :
    IsStable (DeletionSteps key) (IsCleared managementKey links) := by
  apply isStable_of_step
  intro before after step cleared management there
  obtain ⟨original, stored, same⟩ :=
    step.origin (·.HasEndpointFor links) (fun _ _ => rfl) there
  rw [same]
  exact cleared original stored

theorem isStable_get?_of_ne (apart : managementKey ≠ key) (management : Cluster) :
    IsStable (DeletionSteps key) (fun shelf => shelf.get? managementKey = some management) := by
  apply isStable_of_step
  intro before after step there
  rw [step.get?_of_ne apart]
  exact there

theorem isStable_isBracketed (managementKey key : ObjectKey) (links : List PrivateLink) :
    IsStable (DeletionSteps key) (IsBracketed managementKey key links) := by
  apply isStable_of_step
  intro before after step bracketed
  constructor
  · intro management there
    obtain ⟨original, stored, same⟩ := step.origin (·.hostedEndpoints) (fun _ _ => rfl) there
    rw [same]
    exact bracketed.unique original stored
  · intro workload there
    obtain ⟨original, stored, same⟩ := step.origin (·.privateLinks) (fun _ _ => rfl) there
    exact same.trans (bracketed.declared original stored)
  · cases bracketed.guarded with
    | inl held => exact .inl (isStable_isHeld key (.single step) held)
    | inr cleared => exact .inr (isStable_isCleared managementKey key links (.single step) cleared)

namespace IsBracketed

/-- The management cluster may be put back with any endpoints as long as the workload cluster has
the finalizer, and without endpoints for the links at any time. -/
theorem put_management (bracketed : IsBracketed managementKey key links shelf)
    (apart : managementKey ≠ key) (keyed : cluster.key = managementKey)
    (unique : UniqueNames cluster.hostedEndpoints)
    (guarded : shelf.IsHeld key ∨ ¬ cluster.HasEndpointFor links) :
    IsBracketed managementKey key links (shelf.put cluster) := by
  have elsewhere : (shelf.put cluster).get? key = shelf.get? key :=
    get?_put_of_ne shelf (keyed ▸ apart)
  constructor
  · intro management there
    rw [get?_put_self shelf keyed] at there
    exact Option.some.inj there ▸ unique
  · intro workload there
    rw [elsewhere] at there
    exact bracketed.declared workload there
  · cases guarded with
    | inl held =>
        left
        rw [IsHeld, elsewhere]
        exact held
    | inr without =>
        right
        intro management there
        rw [get?_put_self shelf keyed] at there
        exact Option.some.inj there ▸ without

/-- The workload cluster may be put back with the finalizer at any time, and without it when there
are no endpoints for the links. -/
theorem put_workload (bracketed : IsBracketed managementKey key links shelf)
    (apart : managementKey ≠ key) (keyed : cluster.key = key)
    (declared : cluster.privateLinks = links)
    (guarded : cluster.hasFinalizer Conventions.finalizer = true ∨
      shelf.IsCleared managementKey links) :
    IsBracketed managementKey key links (shelf.put cluster) := by
  have elsewhere : (shelf.put cluster).get? managementKey = shelf.get? managementKey :=
    get?_put_of_ne shelf (keyed ▸ apart.symm)
  constructor
  · intro management there
    rw [elsewhere] at there
    exact bracketed.unique management there
  · intro workload there
    rw [get?_put_self shelf keyed] at there
    exact Option.some.inj there ▸ declared
  · cases guarded with
    | inl has => exact .inl ⟨cluster, get?_put_self shelf keyed, has⟩
    | inr cleared =>
        right
        rw [IsCleared, elsewhere]
        exact cleared

/-- Once the finalizer is added, a workload cluster that is there has it. -/
theorem addFinalizer (bracketed : IsBracketed managementKey key links shelf)
    (apart : managementKey ≠ key) :
    let after := shelf.change key (·.addFinalizer Conventions.finalizer)
    IsBracketed managementKey key links after ∧ after.IsAdmitted key := by
  intro after
  constructor
  · cases there : shelf.get? key with
    | none => rwa [show after = shelf from change_of_absent there _]
    | some workload =>
        rw [show after = _ from change_of_get? there _]
        apply bracketed.put_workload apart
        · rw [Cluster.key_addFinalizer, shelf.keyed there]
        · rw [← bracketed.declared workload there]
          unfold Cluster.addFinalizer
          split <;> rfl
        · exact .inl (Cluster.hasFinalizer_addFinalizer _ _)
  · intro workload there
    rw [get?_change_self (Cluster.key_addFinalizer _), Option.map_eq_some_iff] at there
    obtain ⟨original, -, rfl⟩ := there
    exact Cluster.hasFinalizer_addFinalizer _ _

/-- When there are no endpoints, the finalizer may be removed. -/
theorem removeFinalizer (bracketed : IsBracketed managementKey key links shelf)
    (apart : managementKey ≠ key) (cleared : shelf.IsCleared managementKey links) :
    IsBracketed managementKey key links
      (shelf.change key (·.removeFinalizer Conventions.finalizer)) := by
  cases there : shelf.get? key with
  | none => rwa [change_of_absent there]
  | some workload =>
      rw [change_of_get? there]
      apply bracketed.put_workload apart
      · rw [Cluster.key_removeFinalizer, shelf.keyed there]
      · exact bracketed.declared workload there
      · exact .inr cleared

end IsBracketed

end Shelf

end ClusterLinks
