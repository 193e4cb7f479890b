import ClusterLinks.Proofs.Action.Contracts
import ClusterLinks.Proofs.Controller.Guards

/-!
# What a run keeps at its end

A run for a cluster that stays loads its two clusters, makes its passes and then keeps what they
have changed. However the passes end, both clusters get their turn: first the management cluster,
then the other one, also if the first could not be kept. A cluster that is as it was loaded is left
alone, and apart from these two turns a run asks the store to keep nothing.
-/

namespace ClusterLinks

variable {World α : Type} {view : World → Shelf} {store : ClusterStore World}

/-- The change that the call asks the store to keep. -/
def StoreCall.change? : StoreCall → Option (Cluster × Cluster)
  | .persist before after => some (before, after)
  | _ => none

/-- The changes that the store was asked to keep, in that order. -/
def Recorded.changes (recorded : Recorded World) : List (Cluster × Cluster) :=
  recorded.calls.filterMap (·.call.change?)

namespace ClusterScope

/-- What closing the scope has to ask for: the change, if there is one. -/
def flush (scope : ClusterScope) : List (Cluster × Cluster) :=
  if scope.loaded = scope.current then [] else [(scope.loaded, scope.current)]

/-- Closing a scope asks the store to keep the change, and nothing else happens on record. -/
theorem close_on_record (store : ClusterStore World) (view : World → Shelf) (scope : ClusterScope)
    (recorded : Recorded World) :
    let after := (scope.close (store.recorded view) recorded).2
    after.calls.map (·.call) =
        recorded.calls.map (·.call) ++ scope.flush.map (fun change => .persist change.1 change.2) ∧
      after.lookups = recorded.lookups := by
  simp only [close, isDirty, flush, ne_eq, decide_not]
  by_cases same : scope.loaded = scope.current
  · simp [same]
  · simp [same, ClusterStore.recorded, Recorded.call]

end ClusterScope

namespace Recorded

/-- No change is asked for. -/
def SameChanges (before after : Recorded World) : Prop :=
  after.changes = before.changes

theorem SameChanges.refl (recorded : Recorded World) : SameChanges recorded recorded :=
  rfl

theorem sameChanges_call {call : StoreCall} {found? : α → Option Cluster} {action : Action World α}
    (other : call.change? = none) : (Recorded.call view call found? action).Keeps SameChanges := by
  intro recorded
  simp [SameChanges, changes, Recorded.call, other]

/-- The changes can be read off the calls alone. -/
theorem changes_eq (recorded : Recorded World) :
    recorded.changes = (recorded.calls.map (·.call)).filterMap StoreCall.change? := by
  rw [changes, List.filterMap_map]
  rfl

end Recorded

namespace Controller

open Recorded

variable {settings : ControllerSettings} {event : Cluster}

/-! ## Loading -/

/-- The two clusters of a run, unless the one of the event is not there. -/
def loadBoth (settings : ControllerSettings) (store : ClusterStore World) (event : Cluster) :
    Action World (Option (ClusterScope × ClusterScope)) := do
  ensureFinalizer store event
  let workload? ← ClusterScope.load store event.key
  match workload? with
  | none => pure none
  | some workload => do
      let management ← loadManagement settings store
      pure (some (management, workload))

/-- The end of a run, for the clusters that were loaded. -/
def continueWith (settings : ControllerSettings) (store : ClusterStore World)
    (clients : ClientFactory World) :
    Option (ClusterScope × ClusterScope) → Action World (NextLook × Outcome)
  | none => pure (.onChange, .skipped)
  | some (management, workload) => reconcileLoaded settings store clients management workload

theorem reconcileInternal_eq_loadBoth (settings : ControllerSettings) (store : ClusterStore World)
    (clients : ClientFactory World) (event : Cluster) :
    reconcileInternal settings store clients event =
      loadBoth settings store event >>= continueWith settings store clients := by
  rw [reconcileInternal_eq, loadBoth, bind_assoc]
  apply bind_congr
  intro done
  rw [afterAdmission, bind_assoc]
  apply bind_congr
  intro workload?
  cases workload? with
  | none => rfl
  | some workload => simp only [bind_assoc, pure_bind, continueWith]

/-- The cluster that was found, if one was, is the only one on record as loaded from under the
key. -/
def IsLogged (key : ObjectKey) : Except Error (Option ClusterScope) → Recorded World → Prop
  | .ok (some scope), recorded =>
      scope = .ofCluster scope.loaded ∧ recorded.loads key = [scope.loaded]
  | _, recorded => recorded.loads key = []

/-- Either both clusters are on record as loaded when the passes begin, or the management cluster
was not loaded. -/
def AreLogged (settings : ControllerSettings) (event : Cluster) :
    Except Error (Option (ClusterScope × ClusterScope)) → Recorded World → Prop
  | .ok (some (management, workload)), recorded =>
      IsLogged settings.managementCluster (.ok (some management)) recorded ∧
        IsLogged event.key (.ok (some workload)) recorded
  | _, recorded => recorded.loads settings.managementCluster = []

theorem load_meets (store : ClusterStore World) (view : World → Shelf) (key : ObjectKey) :
    (ClusterScope.load (store.recorded view) key).Meets (fun recorded => recorded.loads key = [])
      (IsLogged key) := by
  intro recorded unlogged
  rw [ClusterScope.load_run]
  change IsLogged key ((store.get key recorded.world).1.map _)
    (Recorded.call view (.get key) id (store.get key) recorded).2
  cases answer : (store.get key recorded.world).1 with
  | error error => simp [Except.map, IsLogged, loads_call, answer, unlogged, CallRecord.loaded?]
  | ok found? =>
    cases found? with
    | none => simp [Except.map, IsLogged, loads_call, answer, unlogged, CallRecord.loaded?]
    | some cluster =>
        simp [Except.map, IsLogged, loads_call, answer, unlogged, CallRecord.loaded?,
          ClusterScope.ofCluster]

theorem loadManagement_meets (settings : ControllerSettings) (store : ClusterStore World)
    (view : World → Shelf) :
    (loadManagement settings (store.recorded view)).Meets
      (fun recorded => recorded.loads settings.managementCluster = [])
      fun result => IsLogged settings.managementCluster (result.map some) := by
  refine .bind (load_meets store view settings.managementCluster) ?_ ?_
  · intro error recorded unlogged
    exact unlogged
  · intro scope? recorded logged
    cases scope? with
    | none => exact logged
    | some scope => exact logged

theorem loadBoth_meets (store : ClusterStore World) (view : World → Shelf)
    (apart : settings.managementCluster ≠ event.key) :
    (loadBoth settings (store.recorded view) event).Meets
      (fun recorded => recorded.loads settings.managementCluster = [] ∧
        recorded.loads event.key = [])
      (AreLogged settings event) := by
  -- What is loaded from under one key leaves what is on record for the other one as it is.
  have stays {α : Type} {action : Action (Recorded World) α} {key : ObjectKey}
      (keeps : action.Keeps (SameLoads key)) (logged : List Cluster) :
      action.Meets (fun recorded => recorded.loads key = logged)
        fun _ recorded => recorded.loads key = logged :=
    .of_keeps keeps fun _ _ same before => same.trans before
  have ensures (key : ObjectKey) :
      (ensureFinalizer (store.recorded view) event).Meets (fun recorded => recorded.loads key = [])
        fun _ recorded => recorded.loads key = [] :=
    stays (sameLoads_ensureFinalizer event) []
  have elsewhere : (ClusterScope.load (store.recorded view) event.key).Keeps
      (SameLoads settings.managementCluster) :=
    load_keeps (sameLoads_get (Ne.symm apart))
  have loads := (stays elsewhere []).and (load_meets store view event.key)
  refine ((ensures _).and (ensures _)).bind ?_ fun done => loads.bind ?_ fun workload? => ?_
  · intro error recorded unlogged
    exact unlogged.1
  · intro error recorded logged
    exact logged.1
  cases workload? with
  | none => exact .pure fun recorded logged => logged.1
  | some workload =>
      intro recorded logged
      obtain ⟨unmanaged, isLoaded, stored⟩ := logged
      have manages := (loadManagement_meets settings store view).and
        (stays (loadManagement_keeps (sameLoads_get apart)) [workload.loaded])
      refine manages.bind ?_ ?_ recorded ⟨unmanaged, stored⟩
      · intro error recorded logged
        exact logged.1
      · intro management
        exact .pure fun recorded logged => ⟨logged.1, isLoaded, logged.2⟩

/-- Until the passes begin, the store is not asked to keep any change. -/
theorem sameChanges_loadBoth :
    (loadBoth settings (store.recorded view) event).Keeps SameChanges := by
  have get (key : ObjectKey) : ((store.recorded view).get key).Keeps SameChanges :=
    sameChanges_call rfl
  have unchanged {α : Type} {value : α} :
      (pure value : Action (Recorded World) α).Keeps SameChanges :=
    .of_unchanged SameChanges.refl fun _ => rfl
  have bind {α β : Type} {action : Action (Recorded World) α} {next : α → Action (Recorded World) β}
      (first : action.Keeps SameChanges) (rest : ∀ value, (next value).Keeps SameChanges) :
      (action >>= next).Keeps SameChanges :=
    first.bind (fun before after => after.trans before) fun _ value _ => rest value
  apply bind
  · exact ensureFinalizer_keeps SameChanges.refl (sameChanges_call rfl)
  · intro _
    apply bind (load_keeps (get _))
    intro workload?
    cases workload? with
    | none => exact unchanged
    | some workload => exact bind (loadManagement_keeps (get _)) fun _ => unchanged

/-! ## Flushes -/

/-- The passes make no call, and after them each of the two clusters is kept in turn if it has
changed. -/
theorem reconcileLoaded_on_record (settings : ControllerSettings) (store : ClusterStore World)
    (view : World → Shelf) (clients : ClientFactory World) (management workload : ClusterScope)
    (recorded : Recorded World) :
    let passes := reconcilePrivate clients.recorded ⟨management, workload, recorded⟩
    let after := (reconcileLoaded settings (store.recorded view) clients.recorded management
      workload recorded).2
    passes.2.world.calls = recorded.calls ∧ after.lookups = passes.2.world.lookups ∧
      after.calls.map (·.call) = recorded.calls.map (·.call) ++
        (passes.2.management.flush ++ passes.2.workload.flush).map
          fun change => .persist change.1 change.2 := by
  intro passes after
  have sameCalls : passes.2.world.calls = recorded.calls :=
    (stays_reconcilePrivate clients.recorded_spares_calls ⟨management, workload, recorded⟩).world
  let flushed := (passes.2.management.close (store.recorded view) passes.2.world).2
  have afterIs : after = (passes.2.workload.close (store.recorded view) flushed).2 := by
    simp only [after, reconcileLoaded_run]
    rfl
  obtain ⟨calls, lookups⟩ :=
    passes.2.management.close_on_record store view passes.2.world
  obtain ⟨calls', lookups'⟩ := passes.2.workload.close_on_record store view flushed
  refine ⟨sameCalls, ?_, ?_⟩
  · rw [afterIs]
    exact lookups'.trans lookups
  · rw [afterIs, calls', calls, sameCalls, List.map_append, List.append_assoc]

/-- A run that has loaded anything is for a cluster that stays and has an internal API server. -/
theorem reconcile_of_loads {recorded : Recorded World} {key : ObjectKey}
    (stays : event.isDeleting = false) (clients : ClientFactory World)
    (silent : recorded.loads key = [])
    (loaded : (reconcile settings (store.recorded view) clients.recorded event
      recorded).2.loads key ≠ []) :
    settings.managementCluster ≠ event.key ∧
      reconcile settings (store.recorded view) clients.recorded event =
        reconcileInternal settings (store.recorded view) clients.recorded event := by
  unfold reconcile at loaded ⊢
  by_cases same : event.key = settings.managementCluster
  · rw [if_pos same] at loaded
    exact absurd silent loaded
  · have staying : ¬ event.isDeleting = true := by simp [stays]
    rw [if_neg same, if_neg staying] at loaded ⊢
    cases balancer : event.loadBalancerType with
    | internal => exact ⟨Ne.symm same, rfl⟩
    | external =>
        rw [balancer] at loaded
        exact absurd silent loaded
    | other name =>
        rw [balancer] at loaded
        exact absurd silent loaded

/-- A run for a cluster that stays, when both of its clusters were loaded: after the passes, however
they end, the store is asked to keep the change to the management cluster and then the one to the
other cluster, each one if there is one, and it is not asked to keep anything else. -/
theorem changes_of_loads (settings : ControllerSettings) (store : ClusterStore World)
    (view : World → Shelf) (clients : ClientFactory World) {event : Cluster}
    (stays : event.isDeleting = false) (world : World) {management workload : Cluster} :
    let after := (reconcile settings (store.recorded view) clients.recorded event (.start world)).2
    management ∈ after.loads settings.managementCluster → workload ∈ after.loads event.key →
      ∃ loaded, loadBoth settings (store.recorded view) event (.start world) =
          (.ok (some (.ofCluster management, .ofCluster workload)), loaded) ∧
        let passes := reconcilePrivate clients.recorded
          ⟨.ofCluster management, .ofCluster workload, loaded⟩
        (passes.2.management.loaded = management ∧ passes.2.workload.loaded = workload) ∧
          passes.2.world.changes = [] ∧ after.lookups = passes.2.world.lookups ∧
          after.calls.map (·.call) = passes.2.world.calls.map (·.call) ++
            (passes.2.management.flush ++ passes.2.workload.flush).map
              (fun change => .persist change.1 change.2) ∧
          after.changes = passes.2.management.flush ++ passes.2.workload.flush := by
  intro after managed stored
  have nothing (key : ObjectKey) : (start world).loads key = [] := rfl
  obtain ⟨apart, runIs⟩ :=
    reconcile_of_loads stays clients (nothing _) (List.ne_nil_of_mem managed)
  have afterIs : after = (reconcileInternal settings (store.recorded view) clients.recorded event
      (.start world)).2 := congrArg (fun run => (run (.start world)).2) runIs
  rw [reconcileInternal_eq_loadBoth, Action.bind_run] at afterIs
  have logged : AreLogged settings event _ _ :=
    loadBoth_meets store view apart (.start world) ⟨nothing _, nothing _⟩
  have quiet : SameChanges (.start world) (loadBoth settings (store.recorded view) event
      (.start world)).2 := sameChanges_loadBoth _
  cases answer : loadBoth settings (store.recorded view) event (.start world) with
  | mk result loaded =>
    rw [answer] at logged quiet afterIs
    -- Without the management cluster the run has ended before the passes.
    have absent (ended : after = loaded) : loaded.loads settings.managementCluster ≠ [] := by
      rw [← ended]
      exact List.ne_nil_of_mem managed
    cases result with
    | error error => exact absurd logged (absent afterIs)
    | ok both? =>
      cases both? with
      | none => exact absurd logged (absent afterIs)
      | some both =>
        obtain ⟨management', workload'⟩ := both
        obtain ⟨⟨isManagement, managed'⟩, isWorkload, stored'⟩ := logged
        have sameLoads (key : ObjectKey) : after.loads key = loaded.loads key := by
          rw [afterIs]
          exact sameLoads_reconcileLoaded clients management' workload' loaded
        rw [sameLoads, managed', List.mem_singleton] at managed
        rw [sameLoads, stored', List.mem_singleton] at stored
        rw [← managed] at isManagement
        rw [← stored] at isWorkload
        subst isManagement isWorkload
        obtain ⟨sameCalls, lookups, calls⟩ := reconcileLoaded_on_record settings store view clients
          (.ofCluster management) (.ofCluster workload) loaded
        have kept := stays_reconcilePrivate clients.recorded_spares_calls
          ⟨.ofCluster management, .ofCluster workload, loaded⟩
        have unchanged : loaded.changes = [] := quiet
        have callsAre := afterIs ▸ calls
        refine ⟨loaded, rfl, ⟨kept.managementLoaded, kept.workloadLoaded⟩, ?_, ?_, ?_, ?_⟩
        · rw [changes, sameCalls]
          exact unchanged
        · rw [afterIs]
          exact lookups
        · rw [sameCalls]
          exact callsAre
        · rw [changes_eq] at unchanged ⊢
          rw [callsAre, List.filterMap_append, unchanged, List.filterMap_map]
          exact List.filterMap_some

open Landscape in
/-- The management cluster cannot be kept, and yet the store is asked to keep the red one, too. -/
theorem red_is_kept_after_a_failure :
    let shaky := { flaky with faults := [false, false, false, true] }
    let after := (reconcile controllerSettings (FlakyShelf.store.recorded (·.shelf))
      (clientFactory FlakyShelf).recorded privateRed (.start shaky)).2
    let admitted := privateRed.addFinalizer Conventions.finalizer
    ∃ passes : Workspace (Recorded FlakyShelf),
      (passes.management.loaded = management ∧ passes.workload.loaded = admitted) ∧
        after.changes = passes.management.flush ++ passes.workload.flush ∧
        after.changes.length = 2 ∧ after.world.shelf.get? management.key = some management ∧
        after.world.shelf.get? admitted.key ≠ some admitted := by
  intro shaky after admitted
  have managed : management ∈ after.loads controllerSettings.managementCluster := by
    decide +kernel
  have stored : admitted ∈ after.loads privateRed.key := by decide +kernel
  obtain ⟨loaded, -, asLoaded, -, -, -, changes⟩ :=
    changes_of_loads controllerSettings FlakyShelf.store (·.shelf) (clientFactory FlakyShelf)
      (by decide +kernel : privateRed.isDeleting = false) shaky managed stored
  refine ⟨_, asLoaded, changes, ?_, ?_, ?_⟩ <;> decide +kernel

end Controller

end ClusterLinks
