import ClusterLinks.Proofs.Action.Contracts
import ClusterLinks.Proofs.Controller.Lifetime
import ClusterLinks.Proofs.Controller.Watching
import ClusterLinks.Proofs.Pass.Footprint

/-!
# What a run may write

Scopes are written back whole, so whatever a run does to a cluster that it has loaded ends up in the
store. What it does is little. The management cluster changes in the endpoints that it hosts. The
workload cluster changes in its addresses and in one endpoint for the ingress, and the controller
puts its finalizer on it and takes it off. No other cluster changes at all. This is so after every
call, also after one that fails with effect, and whichever way the run goes.
-/

namespace ClusterLinks

namespace Cluster

theorem Connects.displayName_eq {name : String} {before after : Cluster}
    (connects : Connects name before after) : after.displayName = before.displayName := by
  obtain ⟨annotations, endpoints, rfl, -, -⟩ := connects
  rfl

theorem Connects.key_eq {name : String} {before after : Cluster}
    (connects : Connects name before after) : after.key = before.key := by
  obtain ⟨annotations, endpoints, rfl, -, -⟩ := connects
  rfl

theorem Rehosts.key_eq {before after : Cluster} (rehosts : before.Rehosts after) :
    after.key = before.key := by
  obtain ⟨endpoints, rfl⟩ := rehosts
  rfl

/-- The finalizer of the controller was put on the cluster or taken off or neither, and then it was
connected. -/
def IsWorkedOn (name : String) (before after : Cluster) : Prop :=
  ∃ marked, (marked = before ∨ marked = before.addFinalizer Conventions.finalizer ∨
      marked = before.removeFinalizer Conventions.finalizer) ∧ Connects name marked after

namespace IsWorkedOn

variable {name : String} {first second third : Cluster}

theorem refl (name : String) (cluster : Cluster) : IsWorkedOn name cluster cluster :=
  ⟨cluster, .inl rfl, .refl _ _⟩

theorem addFinalizer (name : String) (cluster : Cluster) :
    IsWorkedOn name cluster (cluster.addFinalizer Conventions.finalizer) :=
  ⟨_, .inr (.inl rfl), .refl _ _⟩

theorem removeFinalizer (name : String) (cluster : Cluster) :
    IsWorkedOn name cluster (cluster.removeFinalizer Conventions.finalizer) :=
  ⟨_, .inr (.inr rfl), .refl _ _⟩

/-- The finalizer has nothing to do with annotations and endpoints. -/
theorem exists_marked (worked : IsWorkedOn name first second) :
    ∃ marked annotations endpoints,
      (marked = first ∨ marked = first.addFinalizer Conventions.finalizer ∨
        marked = first.removeFinalizer Conventions.finalizer) ∧
      second = (marked.withAnnotations annotations).withEndpoints endpoints ∧
      OnlyAddresses first.metadata.annotations annotations ∧
      Endpoints.Gains name first.hostedEndpoints endpoints := by
  obtain ⟨marked, isMarked, annotations, endpoints, rfl, only, gains⟩ := worked
  have same : marked.metadata.annotations = first.metadata.annotations ∧
      marked.hostedEndpoints = first.hostedEndpoints := by
    obtain rfl | rfl | rfl := isMarked
    · exact ⟨rfl, rfl⟩
    · unfold Cluster.addFinalizer
      split <;> exact ⟨rfl, rfl⟩
    · exact ⟨rfl, rfl⟩
  exact ⟨marked, annotations, endpoints, isMarked, rfl, same.1 ▸ only, same.2 ▸ gains⟩

theorem connect (before : IsWorkedOn name first second) (after : Connects name second third) :
    IsWorkedOn name first third := by
  obtain ⟨marked, isMarked, connects⟩ := before
  exact ⟨marked, isMarked, connects.trans after⟩

end IsWorkedOn

end Cluster

/-! ## Shelves -/

/-- What runs for the cluster with the key may make of the clusters: nothing else changes, and of
two clusters only what is theirs to change. None comes or goes. -/
structure Shelf.IsFramed (managementKey key : ObjectKey) (before after : Shelf) : Prop where
  others : ∀ other, other ≠ managementKey → other ≠ key → after.get? other = before.get? other
  management : Option.Rel Cluster.Rehosts (before.get? managementKey) (after.get? managementKey)
  workload : Option.Rel
    (Cluster.IsWorkedOn (PrivateEndpoint.ingressNameFor key.name managementKey.name))
    (before.get? key) (after.get? key)

namespace Shelf.IsFramed

variable {managementKey key : ObjectKey} {before shelf : Shelf} {cluster : Cluster}

theorem exists_of_rel_some {related : Cluster → Cluster → Prop} {stored? : Option Cluster}
    (relate : Option.Rel related stored? (some cluster)) :
    ∃ stored, stored? = some stored ∧ related stored cluster := by
  cases relate with
  | some relate => exact ⟨_, rfl, relate⟩

theorem exists_after {related : Cluster → Cluster → Prop} {before? after? : Option Cluster}
    (relate : Option.Rel related before? after?) (there : before? = some cluster) :
    ∃ after, after? = some after ∧ related cluster after := by
  subst there
  cases relate with
  | some relate => exact ⟨_, rfl, relate⟩

theorem rel_imp {related related' : Cluster → Cluster → Prop} {before? after? : Option Cluster}
    (imp : ∀ before after, related before after → related' before after)
    (relate : Option.Rel related before? after?) : Option.Rel related' before? after? := by
  cases relate with
  | none => exact .none
  | some relate => exact .some (imp _ _ relate)

theorem refl (managementKey key : ObjectKey) (shelf : Shelf) :
    IsFramed managementKey key shelf shelf where
  others _ _ _ := rfl
  management := by
    cases shelf.get? managementKey with
    | none => exact .none
    | some management => exact .some (.refl management)
  workload := by
    cases shelf.get? key with
    | none => exact .none
    | some workload => exact .some (.refl _ workload)

/-- The management cluster may be put back with other endpoints. -/
theorem put_management (framed : IsFramed managementKey key before shelf)
    (apart : managementKey ≠ key) {management : Cluster}
    (there : before.get? managementKey = some management) (rehosts : management.Rehosts cluster) :
    IsFramed managementKey key before (shelf.put cluster) := by
  have keyed : cluster.key = managementKey := rehosts.key_eq.trans (before.keyed there)
  constructor
  · intro other unmanaged foreign
    rw [get?_put_of_ne shelf (keyed ▸ unmanaged.symm)]
    exact framed.others other unmanaged foreign
  · rw [get?_put_self shelf keyed, there]
    exact .some rehosts
  · rw [get?_put_of_ne shelf (keyed ▸ apart)]
    exact framed.workload

/-- The workload cluster may be put back when it was worked on. -/
theorem put_workload (framed : IsFramed managementKey key before shelf)
    (apart : managementKey ≠ key) {workload : Cluster} (keyed : cluster.key = key)
    (there : before.get? key = some workload)
    (worked : workload.IsWorkedOn (PrivateEndpoint.ingressNameFor key.name managementKey.name)
      cluster) :
    IsFramed managementKey key before (shelf.put cluster) := by
  constructor
  · intro other unmanaged foreign
    rw [get?_put_of_ne shelf (keyed ▸ foreign.symm)]
    exact framed.others other unmanaged foreign
  · rw [get?_put_of_ne shelf (keyed ▸ apart.symm)]
    exact framed.management
  · rw [get?_put_self shelf keyed, there]
    exact .some worked

/-- As long as the workload cluster is as it was, its finalizers may be changed. -/
theorem change_workload (framed : IsFramed managementKey key before shelf)
    (apart : managementKey ≠ key) (untouched : shelf.get? key = before.get? key)
    {change : Cluster → Cluster} (keyed : ∀ cluster, (change cluster).key = cluster.key)
    (worked : ∀ cluster : Cluster, cluster.IsWorkedOn
      (PrivateEndpoint.ingressNameFor key.name managementKey.name) (change cluster)) :
    IsFramed managementKey key before (shelf.change key change) := by
  cases there : shelf.get? key with
  | none => rwa [change_of_absent there]
  | some stored =>
      rw [change_of_get? there]
      apply framed.put_workload apart _ (untouched.symm.trans there) (worked stored)
      rw [keyed, shelf.keyed there]

/-- What there is under the key of the management cluster was there before, with some endpoints. -/
theorem exists_management (framed : IsFramed managementKey key before shelf)
    (there : shelf.get? managementKey = some cluster) :
    ∃ management, before.get? managementKey = some management ∧ management.Rehosts cluster :=
  exists_of_rel_some (there ▸ framed.management)

theorem exists_workload (framed : IsFramed managementKey key before shelf)
    (there : shelf.get? key = some cluster) :
    ∃ workload, before.get? key = some workload ∧ workload.IsWorkedOn
      (PrivateEndpoint.ingressNameFor key.name managementKey.name) cluster :=
  exists_of_rel_some (there ▸ framed.workload)

end Shelf.IsFramed

namespace Controller

open ClusterLinks.Shelf

variable {World : Type} {view : World → Shelf} {store : ClusterStore World}
variable {clients : ClientFactory World} {settings : ControllerSettings}
variable {management workload event : Cluster} {before : Shelf}

/-! ## Passes -/

/-- The clusters in the workspace are what passes may make of two clusters. -/
structure Workspace.Respects (management workload : Cluster) (workspace : Workspace World) :
    Prop where
  rehosts : management.Rehosts workspace.management.current
  connects : Cluster.Connects
    (PrivateEndpoint.ingressNameFor workload.displayName management.displayName) workload
    workspace.workload.current

theorem outside_respects {α : Type} (action : Action World α) :
    (outside action).Meets (Workspace.Respects management workload)
      fun _ => Workspace.Respects management workload :=
  fun _ respects => ⟨respects.rehosts, respects.connects⟩

theorem apiServerPass_respects (client : EndpointsClient World) :
    (apiServerPass client).attempt.Meets (Workspace.Respects management workload)
      fun _ => Workspace.Respects management workload := by
  intro workspace respects
  obtain ⟨rehosts, connects⟩ := Pass.footprint_of_reconcile (some client)
    workspace.management.current workspace.workload.current
    (PrivateEndpoint.ingressNameFor workload.displayName management.displayName) workspace.world
  exact ⟨respects.rehosts.trans rehosts, respects.connects.trans connects⟩

theorem ingressPass_respects (client : EndpointsClient World) {identity : ClusterIdentity}
    (named : identity.name = management.displayName) (link : PrivateLink) :
    (ingressPass client identity link).Meets (Workspace.Respects management workload)
      fun _ => Workspace.Respects management workload := by
  intro workspace respects
  have connects := Pass.footprint_of_ingress (some client) identity link
    workspace.workload.current workspace.world
  rw [named, respects.connects.displayName_eq] at connects
  exact ⟨respects.rehosts, respects.connects.trans connects⟩

theorem ingressTurn_respects {identity : ClusterIdentity}
    (named : identity.name = management.displayName) (type : LoadBalancerType)
    (links : List PrivateLink) :
    (ingressTurn clients identity type links).Meets (Workspace.Respects management workload)
      fun _ => Workspace.Respects management workload := by
  unfold ingressTurn
  split
  · apply Action.Meets.bind_inspect
    intro current
    refine (outside_respects (clients.client current)).bind (fun _ _ => id) ?_
    intro client
    exact ingressPass_respects client named _
  · exact .pure fun _ => id

theorem afterApiServer_respects {identity : ClusterIdentity}
    (named : identity.name = management.displayName) (type : LoadBalancerType)
    (links : List PrivateLink) (result : Except Error Unit) :
    (afterApiServer clients identity type links result).Meets
      (Workspace.Respects management workload)
      fun _ => Workspace.Respects management workload := by
  unfold afterApiServer
  split
  · exact .ofExcept fun _ => id
  · refine (ingressTurn_respects named type links).bind (fun _ _ => id) ?_
    intro _
    exact .ofExcept fun _ => id

/-- However the passes end, each of the two clusters changes only where it may. -/
theorem reconcilePrivate_respects (clients : ClientFactory World) (workspace : Workspace World) :
    (reconcilePrivate clients workspace).2.Respects workspace.management.current
      workspace.workload.current := by
  let management := workspace.management.current
  let workload := workspace.workload.current
  have start : workspace.Respects management workload := ⟨.refl _, .refl _ _⟩
  simp only [reconcilePrivate_eq, Action.bind_run (Action.inspect _), Action.inspect_run,
    Action.bind_run (Action.ofExcept _), Action.ofExcept_run]
  cases identified : ClusterIdentity.ofCluster workspace.management.current with
  | error error => exact start
  | ok identity =>
      have named : identity.name = management.displayName :=
        ClusterIdentity.name_of_ofCluster identified
      have passes : (outside (clients.client management) >>= fun client => do
          let result ← (apiServerPass client).attempt
          afterApiServer clients identity management.loadBalancerType
            (PrivateLink.allowing management.privateLinks workload.spec.subscriptionId)
            result).Meets (Workspace.Respects management workload)
          fun _ => Workspace.Respects management workload := by
        refine (outside_respects (clients.client management)).bind (fun _ _ => id) ?_
        intro client
        refine (apiServerPass_respects client).bind (fun _ _ => id) ?_
        intro result
        exact afterApiServer_respects named _ _ result
      exact passes workspace start

/-! ## Runs for a cluster that stays -/

/-- Nobody else is at the clusters. -/
theorem isStable_eq (pre : Shelf → Prop) : IsStable Eq pre :=
  fun _ _ same holds => same ▸ holds

section Runs

variable (faulty : store.IsFaulty Eq view) (apart : settings.managementCluster ≠ event.key)

include faulty apart

theorem ensureFinalizer_isFramed :
    (ensureFinalizer (store.recorded view) event).Upholds view
      (IsFramed settings.managementCluster event.key before) (· = before) fun _ _ => True := by
  unfold ensureFinalizer
  split
  · exact .pure fun _ _ _ => trivial
  · apply Action.Upholds.change (faulty.addFinalizer event.key Conventions.finalizer)
      (isStable_eq _) (isStable_eq _)
    rintro shelf framed rfl
    exact ⟨framed.change_workload apart rfl (Cluster.key_addFinalizer _) (.addFinalizer _), trivial⟩

/-- Whatever is loaded in the course of a run, both clusters may be kept as the passes leave
them. -/
theorem reconcileLoaded_isFramed (spares : clients.Spares view) {management' workload' : Cluster}
    (managed : before.get? settings.managementCluster = some management)
    (rehosts : management.Rehosts management') (keyed : workload'.key = event.key)
    (stored : before.get? event.key = some workload)
    (worked : workload.IsWorkedOn
      (PrivateEndpoint.ingressNameFor event.key.name settings.managementCluster.name) workload') :
    (reconcileLoaded settings (store.recorded view) clients.recorded (.ofCluster management')
        (.ofCluster workload')).Upholds view
      (IsFramed settings.managementCluster event.key before) (fun _ => True) fun _ _ => True := by
  intro recorded isFit _
  let workspace : Workspace (Recorded World) :=
    ⟨.ofCluster management', .ofCluster workload', recorded⟩
  let passes := (reconcilePrivate clients.recorded workspace).2
  obtain ⟨sameView, sameCalls⟩ :=
    Prod.mk.inj (stays_reconcilePrivate spares.recorded workspace).world
  have isFit' : passes.world.IsFit view (IsFramed settings.managementCluster event.key before) :=
    ⟨sameCalls ▸ isFit.logged, sameView ▸ isFit.now⟩
  have respects : passes.Respects management' workload' :=
    reconcilePrivate_respects clients.recorded workspace
  have managedKey : management'.key = settings.managementCluster :=
    rehosts.key_eq.trans (before.keyed managed)
  have first : (passes.management.close (store.recorded view)).Upholds view
      (IsFramed settings.managementCluster event.key before) (fun _ => True) fun _ _ => True := by
    apply faulty.upholds_close (isStable_eq _) isStable_true
    · intro shelf framed _
      exact ⟨framed.put_management apart managed (rehosts.trans respects.rehosts), trivial⟩
    · intro _ _ _ _
      trivial
  have second : (passes.workload.close (store.recorded view)).Upholds view
      (IsFramed settings.managementCluster event.key before) (fun _ => True) fun _ _ => True := by
    have connects := respects.connects
    rw [show workload'.displayName = event.key.name from congrArg ObjectKey.name keyed,
      show management'.displayName = settings.managementCluster.name from
        congrArg ObjectKey.name managedKey] at connects
    apply faulty.upholds_close (isStable_eq _) isStable_true
    · intro shelf framed _
      refine ⟨framed.put_workload apart ?_ stored (worked.connect connects), trivial⟩
      exact connects.key_eq.trans keyed
    · intro _ _ _ _
      trivial
  have afterFirst := (first passes.world isFit' trivial).1
  rw [reconcileLoaded_run]
  exact ⟨(second _ afterFirst trivial).1, fun _ _ => trivial⟩

theorem afterAdmission_isFramed (spares : clients.Spares view) :
    (afterAdmission settings (store.recorded view) clients.recorded event.key).Upholds view
      (IsFramed settings.managementCluster event.key before) (fun _ => True) fun _ _ => True := by
  unfold afterAdmission
  apply (faulty.upholds_load (isStable_eq _) isStable_true event.key).bind
  intro workload?
  cases workload? with
  | none => exact .pure fun _ _ _ => trivial
  | some scope =>
      intro recorded isFit holds
      obtain ⟨workload', there, rfl⟩ := Option.map_eq_some_iff.mp holds.2
      have keyed := (view recorded.world).keyed there
      obtain ⟨workload, stored, worked⟩ := isFit.now.exists_workload there
      have rest : (loadManagement settings (store.recorded view) >>= fun management =>
          reconcileLoaded settings (store.recorded view) clients.recorded management
            (.ofCluster workload')).Upholds view
          (IsFramed settings.managementCluster event.key before) (fun _ => True)
          fun _ _ => True := by
        apply (loadManagement_upholds faulty (isStable_eq _) isStable_true).bind
        intro scope recorded isFit holds
        obtain ⟨-, management', there, rfl⟩ := holds
        obtain ⟨management, managed, rehosts⟩ := isFit.now.exists_management there
        exact reconcileLoaded_isFramed faulty apart spares managed rehosts keyed stored worked
          recorded isFit trivial
      exact rest recorded isFit trivial

theorem reconcileInternal_isFramed (spares : clients.Spares view) :
    (reconcileInternal settings (store.recorded view) clients.recorded event).Upholds view
      (IsFramed settings.managementCluster event.key before) (· = before) fun _ _ => True := by
  rw [reconcileInternal_eq]
  apply (ensureFinalizer_isFramed faulty apart).bind
  intro _
  exact afterAdmission_isFramed faulty apart spares

/-! ## Runs for a cluster that is being deleted -/

/-- Up to the removal of the finalizer a deletion leaves the workload cluster alone. -/
theorem tearDown_isFramed {management' : Cluster}
    (managed : before.get? settings.managementCluster = some management)
    (rehosts : management.Rehosts management') :
    (tearDown (store.recorded view) event (.ofCluster management')).Upholds view
      (IsFramed settings.managementCluster event.key before)
      (fun shelf => shelf.get? event.key = before.get? event.key) fun _ _ => True := by
  let without := withoutEndpoints management' event
  have rehosts' : management.Rehosts without.2 :=
    rehosts.trans (Pass.footprint_of_delete management' event ())
  have keyed : without.2.key = settings.managementCluster :=
    rehosts'.key_eq.trans (before.keyed managed)
  have steps : tearDown (store.recorded view) event (.ofCluster management') = (do
      let flush ← ((ClusterScope.mk management' without.2).close (store.recorded view)).attempt
      Action.ofExcept (passOutcome without.1 [flush])
      (store.recorded view).removeFinalizer event.key Conventions.finalizer
      pure (.onChange, .success)) := rfl
  have flushed : ((ClusterScope.mk management' without.2).close (store.recorded view)).Upholds view
      (IsFramed settings.managementCluster event.key before)
      (fun shelf => shelf.get? event.key = before.get? event.key)
      fun _ shelf => shelf.get? event.key = before.get? event.key := by
    apply faulty.upholds_close (isStable_eq _) (isStable_eq _)
    · intro shelf framed untouched
      refine ⟨framed.put_management apart managed rehosts', ?_⟩
      rwa [get?_put_of_ne shelf (keyed ▸ apart)]
    · intro _ _ _
      exact id
  have removed : ((store.recorded view).removeFinalizer event.key Conventions.finalizer).Upholds
      view (IsFramed settings.managementCluster event.key before)
      (fun shelf => shelf.get? event.key = before.get? event.key) fun _ _ => True := by
    apply Action.Upholds.change (faulty.removeFinalizer event.key Conventions.finalizer)
      (isStable_eq _) (isStable_eq _)
    intro shelf framed untouched
    exact ⟨framed.change_workload apart untouched (Cluster.key_removeFinalizer _)
      (.removeFinalizer _), trivial⟩
  rw [steps]
  apply flushed.attempt.bind
  intro flush
  -- After a flush that has failed the run ends here, so nothing need be known about it.
  have decided : (Action.ofExcept (passOutcome without.1 [flush]) :
      Action (Recorded World) Unit).Upholds view
      (IsFramed settings.managementCluster event.key before)
      (fun shelf => ∀ done, flush = .ok done → shelf.get? event.key = before.get? event.key)
      fun _ shelf => shelf.get? event.key = before.get? event.key := by
    apply Action.Upholds.ofExcept
    intro done succeeds shelf _ untouched
    exact untouched () (passOutcome_eq_ok succeeds).2
  apply decided.bind
  intro _
  apply removed.bind
  intro _
  exact .pure fun _ _ => id

theorem handleDeletion_isFramed :
    (handleDeletion settings (store.recorded view) event).Upholds view
      (IsFramed settings.managementCluster event.key before) (· = before) fun _ _ => True := by
  cases has : event.hasFinalizer Conventions.finalizer with
  | false =>
      intro recorded isFit _
      rw [handleDeletion_of_not_hasFinalizer has]
      exact ⟨isFit, fun _ _ => trivial⟩
  | true =>
      rw [handleDeletion_of_hasFinalizer has]
      apply (loadManagement_upholds faulty (isStable_eq _) (isStable_eq _)).bind
      rintro scope recorded isFit ⟨rfl, management, managed, rfl⟩
      exact tearDown_isFramed faulty apart managed (.refl management) recorded isFit rfl

end Runs

/-! ## Runs -/

/-- After every call of a run, and so at its end, the clusters are within the frame. -/
theorem reconcile_isFramed (settings : ControllerSettings) (event : Cluster)
    (faulty : store.IsFaulty Eq view) (spares : clients.Spares view) :
    (reconcile settings (store.recorded view) clients.recorded event).Upholds view
      (IsFramed settings.managementCluster event.key before) (· = before) fun _ _ => True := by
  intro recorded isFit start
  unfold reconcile
  split
  · exact ⟨isFit, fun _ _ => trivial⟩
  · next other =>
    have apart : settings.managementCluster ≠ event.key := Ne.symm other
    split
    · exact handleDeletion_isFramed faulty apart recorded isFit start
    · cases event.loadBalancerType with
      | external => exact ⟨isFit, fun _ _ => trivial⟩
      | other name => exact ⟨isFit, fun _ _ => trivial⟩
      | internal => exact reconcileInternal_isFramed faulty apart spares recorded isFit start

/-- Whatever a run comes to and whichever calls fail, with effect or without: clusters other than
the two that it is about stay as they are; the management cluster gets other endpoints in the subnet
that hosts them; and the workload cluster gets or loses the finalizer of the controller, gets
addresses, and gets at most one endpoint, which bears the name for the ingress and comes last. -/
theorem write_frame (settings : ControllerSettings) (store : ClusterStore World)
    (clients : ClientFactory World) (event : Cluster) (world : World)
    (faulty : store.IsFaulty Eq view) (spares : clients.Spares view) :
    let before := view world
    let after := view (reconcile settings store clients event world).2
    let ingressName :=
      PrivateEndpoint.ingressNameFor event.key.name settings.managementCluster.name
    (∀ other, other ≠ settings.managementCluster → other ≠ event.key →
        after.get? other = before.get? other) ∧
      Option.Rel (fun management management' =>
          ∃ endpoints, management' = management.withEndpoints endpoints)
        (before.get? settings.managementCluster) (after.get? settings.managementCluster) ∧
      Option.Rel (fun workload workload' => ∃ marked annotations endpoints,
          (marked = workload ∨ marked = workload.addFinalizer Conventions.finalizer ∨
            marked = workload.removeFinalizer Conventions.finalizer) ∧
          workload' = (marked.withAnnotations annotations).withEndpoints endpoints ∧
          OnlyAddresses workload.metadata.annotations annotations ∧
          (endpoints = workload.hostedEndpoints ∨
            ∃ endpoint, endpoint.name = ingressName ∧
              endpoints = workload.hostedEndpoints ++ [endpoint]))
        (before.get? event.key) (after.get? event.key) := by
  intro before after ingressName
  have isFit : (Recorded.start world).IsFit view
      (IsFramed settings.managementCluster event.key before) :=
    ⟨by simp [Recorded.start], .refl _ _ _⟩
  have framed := (reconcile_isFramed settings event faulty spares _ isFit rfl).1.now
  rw [(reconcile_recorded view settings store clients event (.start world)).2] at framed
  refine ⟨framed.others, framed.management, IsFramed.rel_imp ?_ framed.workload⟩
  intro workload workload' worked
  obtain ⟨marked, annotations, endpoints, isMarked, isAfter, only, gains⟩ := worked.exists_marked
  refine ⟨marked, annotations, endpoints, isMarked, isAfter, only, ?_⟩
  exact gains.imp_right fun added => added.2

open Landscape in
/-- A run for the red cluster, in which the second flush fails, has an effect on the management
cluster, but only on its endpoints, and none on the green cluster. -/
theorem green_is_not_touched :
    let crowded := { flaky with shelf := flaky.shelf.put green }
    let after := (reconcile controllerSettings FlakyShelf.store (clientFactory FlakyShelf)
      privateRed crowded).2.shelf
    crowded.shelf.get? green.key = some green ∧ after.get? green.key = some green ∧
      after.get? controllerSettings.managementCluster ≠ some Landscape.management ∧
      ∃ endpoints, after.get? controllerSettings.managementCluster =
        some (Landscape.management.withEndpoints endpoints) := by
  intro crowded after
  have stored : crowded.shelf.get? green.key = some green := by decide +kernel
  have managed : crowded.shelf.get? controllerSettings.managementCluster =
      some Landscape.management := by
    decide +kernel
  obtain ⟨others, kept, -⟩ := write_frame controllerSettings FlakyShelf.store
    (clientFactory FlakyShelf) privateRed crowded
    (FlakyShelf.isUnreliable_store.isFaulty fun _ => rfl) (clientFactory_spares _)
  have untouched := others green.key (by decide +kernel) (by decide +kernel)
  obtain ⟨management', there, endpoints, rfl⟩ := IsFramed.exists_after kept managed
  -- The run is put in the place of its name, since the two are compared by evaluation.
  simp only [after]
  exact ⟨stored, untouched.trans stored, by decide +kernel, endpoints, there⟩

end Controller

end ClusterLinks
