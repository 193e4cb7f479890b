import ClusterLinks.Proofs.Controller.Teardown
import ClusterLinks.Proofs.Store.Records

/-!
# What a run is guarded by

A run reaches out when it looks an endpoint up or gives the management cluster a new one. It does
so only if the event is for a cluster that stays, that has an internal API server and that is not
the management cluster. The cluster that it works on is loaded after that: it is what is stored,
with the finalizer if the event was without it. Nothing is asked about that cluster again, so it
passes the guards only as far as what is stored agrees with the event.
-/

namespace ClusterLinks

/-- The call keeps the management cluster with an endpoint that it did not have before. -/
def StoreCall.Extends (managementKey : ObjectKey) : StoreCall → Prop
  | .persist before after =>
      after.key = managementKey ∧
        ∃ endpoint ∈ after.hostedEndpoints, endpoint ∉ before.hostedEndpoints
  | _ => False

/-- The cluster that the call has loaded from under a key. -/
def CallRecord.loaded? (key : ObjectKey) (record : CallRecord) : Option Cluster :=
  match record.call, record.answer with
  | .get asked, .ok found? => if asked = key then found? else none
  | _, _ => none

/-- The cluster is not being deleted, its API server is internal, and it has the finalizer. -/
def Cluster.IsGuarded (cluster : Cluster) : Prop :=
  cluster.isDeleting = false ∧ cluster.loadBalancerType = .internal ∧
    cluster.hasFinalizer Conventions.finalizer = true

instance (cluster : Cluster) : Decidable cluster.IsGuarded :=
  inferInstanceAs (Decidable (_ ∧ _))

namespace Landscape

/-- The red cluster as the controller has seen it. -/
def seenRed : Cluster :=
  privateRed.withFinalizers (some [Conventions.finalizer, "other.dev/keep"])

/-- The red cluster when its deletion has been asked for and the controller has let go of it. -/
def leavingRed : Cluster :=
  { seenRed with
    metadata.deletionTimestamp := some ⟨0, 0⟩, metadata.finalizers := some ["other.dev/keep"] }

end Landscape

namespace Recorded

variable {World α : Type} {view : World → Shelf} {managementKey key : ObjectKey}
variable {call : StoreCall} {found? : α → Option Cluster} {action : Action World α}

/-- The clusters that were loaded from under a key. -/
def loads (key : ObjectKey) (recorded : Recorded World) : List Cluster :=
  recorded.calls.filterMap (CallRecord.loaded? key)

/-- There was a look-up, or the management cluster was to be kept with an endpoint that it did not
have before. -/
def ReachesOut (managementKey : ObjectKey) (recorded : Recorded World) : Prop :=
  recorded.lookups ≠ [] ∨ ∃ record ∈ recorded.calls, record.call.Extends managementKey

theorem not_reachesOut_start (world : World) : ¬ (start world).ReachesOut managementKey := by
  simp [ReachesOut, start]

/-- What is done does not reach out. -/
def NoFurther (managementKey : ObjectKey) (before after : Recorded World) : Prop :=
  after.ReachesOut managementKey → before.ReachesOut managementKey

theorem NoFurther.refl (recorded : Recorded World) : NoFurther managementKey recorded recorded :=
  id

theorem noFurther_call (stays : ¬ call.Extends managementKey) :
    (Recorded.call view call found? action).Keeps (NoFurther managementKey) := by
  intro recorded reaches
  cases reaches with
  | inl asked => exact .inl asked
  | inr extends? =>
      obtain ⟨record, member, extending⟩ := extends?
      cases List.mem_append.mp member with
      | inl before => exact .inr ⟨record, before, extending⟩
      | inr last =>
          rw [List.mem_singleton] at last
          subst last
          exact absurd extending stays

/-- Nothing is loaded from under the key. -/
def SameLoads (key : ObjectKey) (before after : Recorded World) : Prop :=
  after.loads key = before.loads key

theorem SameLoads.refl (recorded : Recorded World) : SameLoads key recorded recorded :=
  rfl

theorem loads_call (recorded : Recorded World) :
    (Recorded.call view call found? action recorded).2.loads key =
      recorded.loads key ++
        (CallRecord.loaded? key ⟨call, (action recorded.world).1.map found?,
          view (action recorded.world).2⟩).toList := by
  simp only [loads, Recorded.call, List.filterMap_append, List.filterMap_cons, List.filterMap_nil]
  cases CallRecord.loaded? key _ <;> rfl

theorem sameLoads_call (elsewhere : call ≠ .get key) :
    (Recorded.call view call found? action).Keeps (SameLoads key) := by
  intro recorded
  have nothing (answer : Except Error (Option Cluster)) (shelf : Shelf) :
      CallRecord.loaded? key ⟨call, answer, shelf⟩ = none := by
    cases call with
    | get asked =>
        have apart : asked ≠ key := fun same => elsewhere (congrArg StoreCall.get same)
        cases answer with
        | error error => rfl
        | ok found => simp [CallRecord.loaded?, apart]
    | persist before after => rfl
    | addFinalizer asked finalizer => rfl
    | removeFinalizer asked finalizer => rfl
  rw [SameLoads, loads_call, nothing, Option.toList_none, List.append_nil]

end Recorded

/-- Loading is one call. -/
theorem ClusterScope.load_run {World : Type} (store : ClusterStore World) (key : ObjectKey)
    (world : World) :
    load store key world = ((store.get key world).1.map (·.map ofCluster),
      (store.get key world).2) := by
  rw [load, Action.bind_run]
  cases store.get key world with
  | mk result after => cases result <;> rfl

namespace Controller

open Recorded

variable {World : Type} {view : World → Shelf} {store : ClusterStore World}
variable {settings : ControllerSettings} {managementKey key : ObjectKey}

/-! ## What calls keep, runs keep -/

section Keeps

variable {related : World → World → Prop}

theorem load_keeps (get : (store.get key).Keeps related) :
    (ClusterScope.load store key).Keeps related := by
  intro world
  rw [ClusterScope.load_run]
  exact get world

theorem close_keeps (reflexive : ∀ world, related world world) {scope : ClusterScope}
    (persist : (store.persist scope.loaded scope.current).Keeps related) :
    (scope.close store).Keeps related := by
  unfold ClusterScope.close
  split
  · exact persist
  · exact reflexive

theorem ensureFinalizer_keeps (reflexive : ∀ world, related world world) {cluster : Cluster}
    (add : (store.addFinalizer cluster.key Conventions.finalizer).Keeps related) :
    (ensureFinalizer store cluster).Keeps related := by
  unfold ensureFinalizer
  split
  · exact reflexive
  · exact add

theorem loadManagement_keeps (get : (store.get settings.managementCluster).Keeps related) :
    (loadManagement settings store).Keeps related := by
  intro world
  have loading := load_keeps get world
  unfold loadManagement
  cases Action.bind_cases (ClusterScope.load store settings.managementCluster)
      (fun scope? => Action.ofOption (.invalidConfig
        ("management cluster " ++ settings.managementCluster.toText ++ " not found")) scope?)
      world with
  | inl fails =>
      obtain ⟨error, -, ends⟩ := fails
      rw [ends]
      exact loading
  | inr found =>
      obtain ⟨scope?, -, goesOn⟩ := found
      rw [goesOn]
      cases scope? <;> exact loading

end Keeps

/-! ## Runs that do not reach out -/

theorem noFurther_get (key : ObjectKey) :
    ((store.recorded view).get key).Keeps (NoFurther managementKey) :=
  noFurther_call (show ¬ StoreCall.Extends managementKey (.get key) from id)

theorem noFurther_ensureFinalizer (event : Cluster) :
    (ensureFinalizer (store.recorded view) event).Keeps (NoFurther managementKey) :=
  ensureFinalizer_keeps NoFurther.refl
    (noFurther_call (show ¬ StoreCall.Extends managementKey (.addFinalizer ..) from id))

/-- A scope without new endpoints can be closed without reaching out. -/
theorem noFurther_close {scope : ClusterScope}
    (fewer : scope.current.hostedEndpoints.Sublist scope.loaded.hostedEndpoints) :
    (scope.close (store.recorded view)).Keeps (NoFurther managementKey) := by
  refine close_keeps NoFurther.refl (noFurther_call ?_)
  intro extending
  obtain ⟨-, endpoint, present, new⟩ := extending
  exact new (fewer.subset present)

/-- Taking endpoints away does not reach out. -/
theorem noFurther_tearDown (event management : Cluster) :
    (tearDown (store.recorded view) event (.ofCluster management)).Keeps
      (NoFurther managementKey) := by
  intro recorded
  rw [tearDown_run]
  have flushed : NoFurther managementKey recorded ((ClusterScope.mk management
      (withoutEndpoints management event).2).close (store.recorded view) recorded).2 :=
    noFurther_close (hostedEndpoints_withoutEndpoints_sublist management event) recorded
  dsimp only
  split
  · exact flushed
  · intro reaches
    apply flushed
    exact noFurther_call
      (show ¬ StoreCall.Extends managementKey (.removeFinalizer event.key _) from id) _ reaches

/-- A deletion does not reach out. -/
theorem noFurther_handleDeletion (unreliable : store.IsUnreliable view) (event : Cluster) :
    (handleDeletion settings (store.recorded view) event).Keeps (NoFurther managementKey) := by
  intro recorded
  cases has : event.hasFinalizer Conventions.finalizer with
  | false =>
      rw [handleDeletion_of_not_hasFinalizer has]
      exact id
  | true =>
      rw [handleDeletion_of_hasFinalizer has]
      refine Action.Keeps.bind (fun before after reaches => before (after reaches)) ?_ ?_ recorded
      · exact loadManagement_keeps (noFurther_get _)
      · intro between scope found
        obtain ⟨outcome, -⟩ := loadManagement_of_isUnreliable unreliable.recorded settings between
        cases outcome with
        | inl loaded =>
            obtain ⟨management, -, isLoaded⟩ := loaded
            cases found.symm.trans isLoaded
            exact noFurther_tearDown event management
        | inr failed =>
            obtain ⟨error, fails⟩ := failed
            cases found.symm.trans fails

/-! ## Runs that do -/

theorem sameLoads_get {other : ObjectKey} (apart : other ≠ key) :
    ((store.recorded view).get other).Keeps (SameLoads key) :=
  sameLoads_call fun same => apart (StoreCall.get.inj same)

theorem sameLoads_ensureFinalizer (event : Cluster) :
    (ensureFinalizer (store.recorded view) event).Keeps (SameLoads key) :=
  ensureFinalizer_keeps SameLoads.refl (sameLoads_call nofun)

theorem sameLoads_close (scope : ClusterScope) :
    (scope.close (store.recorded view)).Keeps (SameLoads key) :=
  close_keeps SameLoads.refl (sameLoads_call nofun)

/-- What is loaded goes on record. -/
theorem loads_load {recorded : Recorded World} {scope : ClusterScope}
    (found : (ClusterScope.load (store.recorded view) key recorded).1 = .ok (some scope)) :
    (ClusterScope.load (store.recorded view) key recorded).2.loads key =
      recorded.loads key ++ [scope.loaded] := by
  rw [ClusterScope.load_run] at found ⊢
  change (store.get key recorded.world).1.map _ = _ at found
  change (Recorded.call view (.get key) id (store.get key) recorded).2.loads key = _
  rw [loads_call]
  cases answer : (store.get key recorded.world).1 with
  | error error =>
      rw [answer] at found
      cases found
  | ok cluster? =>
      rw [answer] at found
      cases cluster? with
      | none => cases found
      | some cluster =>
          cases found
          simp [CallRecord.loaded?, Except.map, ClusterScope.ofCluster]

/-- The passes of a run load nothing, and neither does the end of it. -/
theorem sameLoads_reconcileLoaded (clients : ClientFactory World)
    (management workload : ClusterScope) :
    (reconcileLoaded settings (store.recorded view) clients.recorded management workload).Keeps
      (SameLoads key) := by
  intro recorded
  let passes := reconcilePrivate clients.recorded ⟨management, workload, recorded⟩
  let first := passes.2.management.close (store.recorded view) passes.2.world
  let second := passes.2.workload.close (store.recorded view) first.2
  have sameCalls : passes.2.world.calls = recorded.calls :=
    (stays_reconcilePrivate clients.recorded_spares_calls ⟨management, workload, recorded⟩).world
  have ends : (reconcileLoaded settings (store.recorded view) clients.recorded management workload
      recorded).2 = second.2 := by
    rw [reconcileLoaded_run]
  rw [SameLoads, ends]
  calc second.2.loads key
      = first.2.loads key := sameLoads_close passes.2.workload first.2
    _ = passes.2.world.loads key := sameLoads_close passes.2.management passes.2.world
    _ = recorded.loads key := congrArg (List.filterMap _) sameCalls

/-- What is admitted to the shelf is the admitted cluster. -/
theorem get?_admitted (event : Cluster) (shelf : Shelf) :
    (admitted event shelf).get? event.key =
      (shelf.get? event.key).map (admittedCluster event) := by
  cases there : shelf.get? event.key with
  | none =>
      rw [admitted]
      split
      · exact there
      · rw [Shelf.change_of_absent there]
        exact there
  | some stored =>
      rw [admitted_of_get? there, Shelf.get?_put_self]
      · rfl
      · rw [key_admittedCluster, shelf.keyed there]

/-- After the admission a run that reaches out loads the cluster that is stored. -/
theorem loads_of_afterAdmission (unreliable : store.IsUnreliable view)
    (clients : ClientFactory World) (apart : settings.managementCluster ≠ key)
    {recorded : Recorded World} (silent : ¬ recorded.ReachesOut managementKey)
    (reaches : (afterAdmission settings (store.recorded view) clients.recorded key
      recorded).2.ReachesOut managementKey) :
    ∃ workload, (view recorded.world).get? key = some workload ∧
      (afterAdmission settings (store.recorded view) clients.recorded key recorded).2.loads key =
        recorded.loads key ++ [workload] := by
  obtain ⟨loaded, -⟩ := ClusterScope.load_of_isUnreliable unreliable.recorded key recorded
  have quiet : NoFurther managementKey recorded
      (ClusterScope.load (store.recorded view) key recorded).2 :=
    load_keeps (noFurther_get key) recorded
  unfold afterAdmission at reaches ⊢
  rw [Action.bind_run] at reaches ⊢
  cases answer : ClusterScope.load (store.recorded view) key recorded with
  | mk result between =>
    simp only [answer] at loaded quiet reaches ⊢
    cases loaded with
    | inr failed =>
        obtain ⟨error, rfl⟩ := failed
        exact absurd (quiet reaches) silent
    | inl found =>
        subst found
        cases stored : (view recorded.world).get? key with
        | none =>
            rw [stored] at reaches
            exact absurd (quiet reaches) silent
        | some workload =>
            rw [stored] at answer
            -- From here on nothing is loaded from under the key, reaching out or not.
            have rest : (loadManagement settings (store.recorded view) >>= fun management =>
                reconcileLoaded settings (store.recorded view) clients.recorded management
                  (.ofCluster workload)).Keeps (SameLoads key) := by
              refine Action.Keeps.bind (fun before after => after.trans before) ?_ ?_
              · exact loadManagement_keeps (sameLoads_get apart)
              · intro _ management _
                exact sameLoads_reconcileLoaded clients management _
            have logged := loads_load (congrArg Prod.fst answer)
            rw [answer] at logged
            exact ⟨workload, rfl, (rest between).trans logged⟩

/-- A run that reaches out loads the cluster that is stored, with the finalizer if the event was
without it, and it loads no other one from under that key. -/
theorem loads_of_reconcileInternal (unreliable : store.IsUnreliable view)
    (clients : ClientFactory World) {event : Cluster}
    (apart : settings.managementCluster ≠ event.key) {recorded : Recorded World}
    (silent : ¬ recorded.ReachesOut managementKey)
    (reaches : (reconcileInternal settings (store.recorded view) clients.recorded event
      recorded).2.ReachesOut managementKey) :
    ∃ stored, (view recorded.world).get? event.key = some stored ∧
      (reconcileInternal settings (store.recorded view) clients.recorded event
          recorded).2.loads event.key =
        recorded.loads event.key ++ [admittedCluster event stored] := by
  rw [reconcileInternal_eq] at reaches ⊢
  have quiet : NoFurther managementKey recorded
      (ensureFinalizer (store.recorded view) event recorded).2 :=
    noFurther_ensureFinalizer event recorded
  cases Action.bind_cases (ensureFinalizer (store.recorded view) event)
      (fun _ => afterAdmission settings (store.recorded view) clients.recorded event.key)
      recorded with
  | inl fails =>
      obtain ⟨error, -, ends⟩ := fails
      rw [ends] at reaches
      exact absurd (quiet reaches) silent
  | inr done =>
      obtain ⟨value, done, goesOn⟩ := done
      rw [goesOn] at reaches ⊢
      obtain ⟨workload, found, logged⟩ :=
        loads_of_afterAdmission unreliable clients apart (mt quiet silent) reaches
      cases ensureFinalizer_of_isUnreliable unreliable.recorded event recorded with
      | inr failed =>
          obtain ⟨⟨error, fails⟩, -⟩ := failed
          cases done.symm.trans fails
      | inl made =>
          rw [made, get?_admitted, Option.map_eq_some_iff] at found
          obtain ⟨stored, there, rfl⟩ := found
          rw [sameLoads_ensureFinalizer event recorded] at logged
          exact ⟨stored, there, logged⟩

/-- The admitted cluster passes the guards as far as what is stored agrees with the event. -/
theorem isGuarded_admittedCluster (event stored : Cluster) :
    (admittedCluster event stored).IsGuarded ↔
      stored.isDeleting = false ∧ stored.loadBalancerType = .internal ∧
        (event.hasFinalizer Conventions.finalizer = true →
          stored.hasFinalizer Conventions.finalizer = true) := by
  unfold Cluster.IsGuarded admittedCluster
  cases event.hasFinalizer Conventions.finalizer with
  | true => simp
  | false =>
      have deleting : (stored.addFinalizer Conventions.finalizer).isDeleting =
          stored.isDeleting := by
        unfold Cluster.addFinalizer
        split <;> rfl
      have balancer : (stored.addFinalizer Conventions.finalizer).loadBalancerType =
          stored.loadBalancerType := by
        unfold Cluster.addFinalizer
        split <;> rfl
      simp [deleting, balancer]

/-- A run reaches out only for an event that passes the guards. The cluster that it then loads is
what is stored, with the finalizer if the event was without it; so it is guarded exactly if what is
stored is not being deleted, has an internal API server, and has the finalizer if the event has
it. -/
theorem guards_of_reachesOut (settings : ControllerSettings) (store : ClusterStore World)
    (unreliable : store.IsUnreliable view) (clients : ClientFactory World) (event : Cluster)
    (world : World) :
    let after := (reconcile settings (store.recorded view) clients.recorded event (.start world)).2
    after.ReachesOut settings.managementCluster →
      (event.key ≠ settings.managementCluster ∧ event.isDeleting = false ∧
          event.loadBalancerType = .internal) ∧
        ∃ stored cluster, (view world).get? event.key = some stored ∧
          after.loads event.key = [cluster] ∧ cluster = admittedCluster event stored ∧
          (cluster.IsGuarded ↔
            stored.isDeleting = false ∧ stored.loadBalancerType = .internal ∧
              (event.hasFinalizer Conventions.finalizer = true →
                stored.hasFinalizer Conventions.finalizer = true)) := by
  intro after reaches
  have silent : ¬ (start world).ReachesOut settings.managementCluster :=
    not_reachesOut_start world
  have runIs : after =
      (reconcile settings (store.recorded view) clients.recorded event (.start world)).2 := rfl
  unfold reconcile at runIs
  split at runIs
  · rw [runIs] at reaches
    exact absurd reaches silent
  · next apart =>
    split at runIs
    · rw [runIs] at reaches
      exact absurd (noFurther_handleDeletion unreliable event _ reaches) silent
    · next staying =>
      cases balancer : event.loadBalancerType with
      | external =>
          rw [runIs, balancer] at reaches
          exact absurd reaches silent
      | other name =>
          rw [runIs, balancer] at reaches
          exact absurd reaches silent
      | internal =>
          rw [balancer] at runIs
          simp only at runIs
          rw [runIs] at reaches ⊢
          obtain ⟨stored, there, logged⟩ :=
            loads_of_reconcileInternal unreliable clients (Ne.symm apart) silent reaches
          refine ⟨⟨apart, Bool.eq_false_iff.mpr staying, rfl⟩, stored, _, there, logged, rfl, ?_⟩
          exact isGuarded_admittedCluster event stored

open Landscape in
/-- A run for the red cluster reaches out, and the cluster that it loads is guarded. -/
theorem red_is_guarded_when_connected :
    let after := (reconcile controllerSettings (FlakyShelf.store.recorded (·.shelf))
      (clientFactory FlakyShelf).recorded privateRed (.start flaky)).2
    after.ReachesOut controllerSettings.managementCluster ∧
      ∃ cluster, after.loads privateRed.key = [cluster] ∧ cluster.IsGuarded := by
  intro after
  have reaches : after.ReachesOut controllerSettings.managementCluster := .inl (by decide +kernel)
  obtain ⟨-, stored, cluster, there, logged, -, guarded⟩ :=
    guards_of_reachesOut controllerSettings FlakyShelf.store FlakyShelf.isUnreliable_store
      (clientFactory FlakyShelf) privateRed flaky reaches
  refine ⟨reaches, cluster, logged, guarded.mpr ?_⟩
  have isRed : flaky.shelf.get? privateRed.key = some privateRed := by decide +kernel
  cases there.symm.trans isRed
  decide +kernel

open Landscape in
/-- The controller has seen the red cluster with the finalizer. By now its deletion has been asked
for and the finalizer is gone, but the run looks up an endpoint for it. -/
theorem leaving_red_is_connected :
    seenRed.key = leavingRed.key ∧
      let after := (reconcile controllerSettings (FlakyShelf.clean.recorded (·.shelf))
        (clientFactory FlakyShelf).recorded seenRed
        (.start ⟨(Shelf.empty.put management).put leavingRed, []⟩)).2
      after.ReachesOut controllerSettings.managementCluster ∧
        after.loads seenRed.key = [leavingRed] ∧ leavingRed.isDeleting = true ∧
          leavingRed.hasFinalizer Conventions.finalizer = false := by
  refine ⟨by decide +kernel, .inl ?_, ?_, ?_⟩ <;> decide +kernel

end Controller

end ClusterLinks
