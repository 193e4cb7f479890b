import ClusterLinks.Proofs.Controller.Runs

/-!
# Runs after failures

A failed run may leave any mixture of old and new behind: a finalizer and nothing else, one cluster
kept and the other one not. Whatever mixture it is, the next run sees the plan half done and resumes
it. So after any number of runs with unreliable stores one run with a reliable store ends as if it
had been the first.
-/

namespace ClusterLinks.Controller

open Endpoints

variable {World : Type} {view : World → Shelf} {store : ClusterStore World}
variable {clients : ClientFactory World} {settings : ControllerSettings}
variable {management workload event : Cluster}

/-- The world after runs for one event, one after the other, each with a store of its own. -/
def worldAfter (settings : ControllerSettings) (clients : ClientFactory World) (event : Cluster)
    (stores : List (ClusterStore World)) (world : World) : World :=
  stores.foldl (fun world store => (reconcile settings store clients event world).2) world

/-- What holds of the store at first and is kept by every run with an unreliable store holds when a
reliable one takes over. If it decides how a run with a reliable store ends, then that run ends as
it would have ended at first. -/
theorem converges_of_invariant (Between : Shelf → Prop) {clean : ClusterStore World}
    (kept : ∀ store : ClusterStore World, store.IsUnreliable view → ∀ world,
      Between (view world) → Between (view (reconcile settings store clients event world).2))
    (settled : ∃ result final, ∀ world, Between (view world) →
      (reconcile settings clean clients event world).1 = result ∧
        view (reconcile settings clean clients event world).2 = final)
    {stores : List (ClusterStore World)} (unreliable : ∀ store ∈ stores, store.IsUnreliable view)
    {world : World} (start : Between (view world)) :
    let converged := reconcile settings clean clients event
      (worldAfter settings clients event stores world)
    let single := reconcile settings clean clients event world
    converged.1 = single.1 ∧ view converged.2 = view single.2 := by
  have between : Between (view (worldAfter settings clients event stores world)) := by
    induction stores generalizing world with
    | nil => exact start
    | cons store rest ih =>
        exact ih (fun other member => unreliable other (List.mem_cons_of_mem _ member))
          (kept store (unreliable store List.mem_cons_self) world start)
  rcases settled with ⟨result, final, settled⟩
  rcases settled _ between with ⟨results, finals⟩
  rcases settled _ start with ⟨results', finals'⟩
  exact ⟨results.trans results'.symm, finals.trans finals'.symm⟩

/-- Runs that do nothing converge at once. -/
theorem converges_of_idle (result : Except Error (NextLook × Outcome))
    (idle : ∀ store, reconcile settings store clients event = Action.ofExcept result)
    {clean : ClusterStore World} {stores : List (ClusterStore World)}
    (unreliable : ∀ store ∈ stores, store.IsUnreliable view) (world : World) :
    let converged := reconcile settings clean clients event
      (worldAfter settings clients event stores world)
    let single := reconcile settings clean clients event world
    converged.1 = single.1 ∧ view converged.2 = view single.2 := by
  refine converges_of_invariant (· = view world) ?_ ⟨result, view world, ?_⟩ unreliable rfl
  · intro store _ world' same
    rw [idle, Action.ofExcept_run]
    exact same
  · intro world' same
    rw [idle, Action.ofExcept_run]
    exact ⟨rfl, same⟩

/-! ## Clusters that stay -/

section Internal

variable {answers : Cluster → Except Error Findings}

theorem passes_eq_plan (gives : clients.Gives answers) (management workload : Cluster)
    (world : World) :
    let passes := reconcilePrivate clients ⟨.ofCluster management, .ofCluster workload, world⟩
    passes.1 = (plan answers management workload).result ∧
      passes.2.management.current = (plan answers management workload).management ∧
      passes.2.workload.current = (plan answers management workload).workload := by
  rcases follows_reconcilePrivate gives (.ofCluster management) (.ofCluster workload) world with
    ⟨results, managements, workloads⟩
  exact ⟨results, congrArg ClusterScope.current managements,
    congrArg ClusterScope.current workloads⟩

/-- The two clusters of a run and where they are kept. -/
structure Premises (base : Shelf) (managementKey : ObjectKey)
    (event management workload : Cluster) : Prop where
  apart : managementKey ≠ event.key
  managed : base.get? managementKey = some management
  stored : base.get? event.key = some workload
  unique : UniqueNames management.hostedEndpoints
  trueNames : management.HasTrueNames workload

variable {base shelf : Shelf} {managementKey : ObjectKey}

/-- The plan for the two clusters of a run. -/
def planned (answers : Cluster → Except Error Findings) (event management workload : Cluster) :
    Plan :=
  plan answers management (admittedCluster event workload)

/-- The management cluster is as it was or as it is planned. -/
def ManagementAt (answers : Cluster → Except Error Findings)
    (event management workload management' : Cluster) : Prop :=
  management' = management ∨ management' = (planned answers event management workload).management

/-- The workload cluster has the finalizer and is apart from that as it was or as it is planned. -/
def WorkloadAt (answers : Cluster → Except Error Findings)
    (event management workload workload' : Cluster) : Prop :=
  workload' = admittedCluster event workload ∨
    workload' = (planned answers event management workload).workload

/-- What may be in the store between two runs: each cluster as it was or as it is planned, the
workload cluster possibly without the finalizer. -/
def UnderWay (base : Shelf) (answers : Cluster → Except Error Findings)
    (event management workload : Cluster) (shelf : Shelf) : Prop :=
  ∃ management' workload', ManagementAt answers event management workload management' ∧
    (workload' = workload ∨ WorkloadAt answers event management workload workload') ∧
    shelf = (base.put management').put workload'

namespace Premises

variable (premises : Premises base managementKey event management workload)
include premises

theorem key_management {management' : Cluster}
    (isManagement : ManagementAt answers event management workload management') :
    management'.key = managementKey := by
  have sameKey := base.keyed premises.managed
  rcases isManagement with rfl | rfl
  · exact sameKey
  · exact (Cluster.key_of_core_eq (core_plan _ _ _).1).trans sameKey

theorem key_workload {workload' : Cluster}
    (isWorkload : WorkloadAt answers event management workload workload') :
    workload'.key = event.key := by
  have sameKey : (admittedCluster event workload).key = event.key :=
    (key_admittedCluster _ _).trans (base.keyed premises.stored)
  rcases isWorkload with rfl | rfl
  · exact sameKey
  · exact (Cluster.key_of_core_eq (core_plan _ _ _).2).trans sameKey

/-- Wherever the clusters are, the passes come to what is planned. -/
theorem plan_eq_planned {management' workload' : Cluster}
    (isManagement : ManagementAt answers event management workload management')
    (isWorkload : WorkloadAt answers event management workload workload') :
    plan answers management' workload' = planned answers event management workload := by
  apply plan_resume premises.unique _ isManagement isWorkload
  unfold admittedCluster Cluster.addFinalizer
  split
  · exact premises.trueNames
  · split <;> exact premises.trueNames

theorem underWay_start : UnderWay base answers event management workload base :=
  ⟨management, workload, .inl rfl, .inl rfl, by
    rw [Shelf.put_of_get? premises.managed, Shelf.put_of_get? premises.stored]⟩

/-- The next run works on a workload cluster that has the finalizer. -/
theorem admitted_of_underWay (underWay : UnderWay base answers event management workload shelf) :
    ∃ management' workload', ManagementAt answers event management workload management' ∧
      WorkloadAt answers event management workload workload' ∧
      admitted event shelf = (base.put management').put workload' ∧
      (admitted event shelf).get? managementKey = some management' ∧
      (admitted event shelf).get? event.key = some workload' := by
  rcases underWay with ⟨management', workload', isManagement, isWorkload, rfl⟩
  have admittedIs :
      WorkloadAt answers event management workload (admittedCluster event workload') := by
    rcases isWorkload with rfl | rfl | rfl
    · exact .inl rfl
    · exact .inl (admittedCluster_of_core_eq rfl)
    · exact .inr (admittedCluster_of_core_eq (core_plan _ _ _).2)
  have keyed : workload'.key = event.key := by
    rcases isWorkload with rfl | isWorkload
    · exact base.keyed premises.stored
    · exact premises.key_workload isWorkload
  have admission : admitted event ((base.put management').put workload') =
      (base.put management').put (admittedCluster event workload') := by
    rw [admitted_of_get? (Shelf.get?_put_self _ keyed)]
    exact Shelf.put_put _ (key_admittedCluster _ _).symm
  refine ⟨management', admittedCluster event workload', isManagement, admittedIs, admission, ?_, ?_⟩
  · have managementKeyed := premises.key_management isManagement
    rw [admission, Shelf.get?_put_of_ne, Shelf.get?_put_self _ managementKeyed]
    rw [premises.key_workload admittedIs]
    exact premises.apart.symm
  · rw [admission, Shelf.get?_put_self _ (premises.key_workload admittedIs)]

/-- Once both clusters have been put in again, what was there does not matter. -/
theorem put_put_of_admitted {management' management'' workload' workload'' : Cluster}
    (isManagement : ManagementAt answers event management workload management')
    (isManagement' : ManagementAt answers event management workload management'')
    (isWorkload : WorkloadAt answers event management workload workload')
    (isWorkload' : WorkloadAt answers event management workload workload'') :
    (((base.put management').put workload').put management'').put workload'' =
      (base.put management'').put workload'' := by
  apply Shelf.put_put_put_put
  · rw [premises.key_management isManagement, premises.key_management isManagement']
  · rw [premises.key_workload isWorkload, premises.key_workload isWorkload']
  · rw [premises.key_management isManagement', premises.key_workload isWorkload']
    exact premises.apart

end Premises

/-- A run with an unreliable store leaves behind what may be under way. -/
theorem underWay_of_isUnreliable (gives : clients.Gives answers) (spares : clients.Spares view)
    (premises : Premises base settings.managementCluster event management workload)
    (unreliable : store.IsUnreliable view) {world : World}
    (underWay : UnderWay base answers event management workload (view world)) :
    UnderWay base answers event management workload
      (view (reconcileInternal settings store clients event world).2) := by
  rcases premises.admitted_of_underWay underWay with
    ⟨management', workload', isManagement, isWorkload, admission, managed, stored⟩
  rcases reconcileInternal_of_isUnreliable unreliable spares premises.apart world with
    kept | admittedOnly | ⟨management'', workload'', between, managed', stored', kept⟩
  · rwa [kept]
  · rw [admittedOnly, admission]
    exact ⟨management', workload', isManagement, .inr isWorkload, rfl⟩
  · rw [managed, Option.some.injEq] at managed'
    rw [stored, Option.some.injEq] at stored'
    subst managed' stored'
    rcases kept with ⟨keptManagement, keptWorkload, isKept, isKept', after⟩
    rcases passes_eq_plan gives management' workload' between with ⟨-, managements, workloads⟩
    rw [managements, premises.plan_eq_planned isManagement isWorkload] at isKept
    rw [workloads, premises.plan_eq_planned isManagement isWorkload] at isKept'
    have keptAt : ManagementAt answers event management workload keptManagement := by
      rcases isKept with rfl | rfl
      · exact isManagement
      · exact .inr rfl
    have keptAt' : WorkloadAt answers event management workload keptWorkload := by
      rcases isKept' with rfl | rfl
      · exact isWorkload
      · exact .inr rfl
    rw [admission, premises.put_put_of_admitted isManagement keptAt isWorkload keptAt'] at after
    exact ⟨keptManagement, keptWorkload, keptAt, .inr keptAt', after⟩

/-- A run with a reliable store finishes whatever is under way as planned. -/
theorem finishes_of_isReliable (gives : clients.Gives answers) (spares : clients.Spares view)
    (premises : Premises base settings.managementCluster event management workload)
    (reliable : store.IsReliable view) {world : World}
    (underWay : UnderWay base answers event management workload (view world)) :
    let run := reconcileInternal settings store clients event world
    run.1 = verdict settings (planned answers event management workload).result ∧
      view run.2 = (base.put (planned answers event management workload).management).put
        (planned answers event management workload).workload := by
  intro run
  rcases premises.admitted_of_underWay underWay with
    ⟨management', workload', isManagement, isWorkload, admission, managed, stored⟩
  rcases reconcileInternal_of_isReliable reliable spares premises.apart managed stored with
    ⟨between, result, after⟩
  rcases passes_eq_plan gives management' workload' between with
    ⟨results, managements, workloads⟩
  rw [premises.plan_eq_planned isManagement isWorkload] at results managements workloads
  rw [results] at result
  rw [managements, workloads, admission,
    premises.put_put_of_admitted isManagement (.inr rfl) isWorkload (.inr rfl)] at after
  exact ⟨result, after⟩

end Internal

/-! ## Clusters that are being deleted -/

section Deletion

variable {base : Shelf}

/-- Taking endpoints away a second time changes nothing. -/
theorem withoutEndpoints_again (unique : UniqueNames management.hostedEndpoints) :
    withoutEndpoints (withoutEndpoints management event).2 event =
      withoutEndpoints management event := by
  cases hosts : EndpointDirectory.ofCluster management with
  | error error => simp [withoutEndpoints, Pass.run, hosts]
  | ok endpoints =>
    cases owns : LinkDirectory.ofCluster event with
    | error error => simp [withoutEndpoints, Pass.run, hosts, owns]
    | ok links =>
        have gone := withoutEndpoints_of_directories hosts owns
        have goneAgain := withoutEndpoints_of_directories (EndpointDirectory.ofCluster_update hosts
          (Pass.removeWanted endpoints.identity links)) owns
        rw [EndpointDirectory.hostedEndpoints_of_ofCluster hosts] at unique
        have settled : (endpoints.update (Pass.removeWanted endpoints.identity links)).update
            (Pass.removeWanted endpoints.identity links) =
              endpoints.update (Pass.removeWanted endpoints.identity links) :=
          congrArg (fun kept => endpoints.update fun _ => kept)
            (Pass.removeWanted_removeWanted unique _ _)
        rw [EndpointDirectory.identity_update, settled] at goneAgain
        rw [gone]
        exact goneAgain

/-- What may be in the store between two runs for a cluster that is being deleted. -/
def DeletionUnderWay (base : Shelf) (event management workload : Cluster) (shelf : Shelf) : Prop :=
  ∃ management' workload',
    (management' = management ∨ management' = (withoutEndpoints management event).2) ∧
    (workload' = workload ∨ (withoutEndpoints management event).1 = .ok () ∧
      workload' = workload.removeFinalizer Conventions.finalizer) ∧
    shelf = (base.put management').put workload'

variable {managementKey : ObjectKey} {shelf : Shelf}

theorem Premises.deletion_start
    (premises : Premises base managementKey event management workload) :
    DeletionUnderWay base event management workload base :=
  ⟨management, workload, .inl rfl, .inl rfl, by
    rw [Shelf.put_of_get? premises.managed, Shelf.put_of_get? premises.stored]⟩

/-- Whatever is under way, taking the endpoints away comes to the same, and so does taking the
finalizer away after that. -/
theorem Premises.deletion_resume
    (premises : Premises base managementKey event management workload)
    (underWay : DeletionUnderWay base event management workload shelf) :
    ∃ management', shelf.get? managementKey = some management' ∧
      withoutEndpoints management' event = withoutEndpoints management event ∧
      ∃ workload', (workload' = workload ∨ (withoutEndpoints management event).1 = .ok () ∧
          workload' = workload.removeFinalizer Conventions.finalizer) ∧
        shelf.put (withoutEndpoints management event).2 =
          (base.put (withoutEndpoints management event).2).put workload' ∧
        (shelf.put (withoutEndpoints management event).2).change event.key
            (·.removeFinalizer Conventions.finalizer) =
          (base.put (withoutEndpoints management event).2).put
            (workload.removeFinalizer Conventions.finalizer) := by
  rcases underWay with ⟨management', workload', isManagement, isWorkload, rfl⟩
  have managementKeyed : management.key = managementKey := base.keyed premises.managed
  have workloadKeyed : workload.key = event.key := base.keyed premises.stored
  have changedKeyed : (withoutEndpoints management event).2.key = managementKey :=
    (Cluster.key_of_core_eq (core_withoutEndpoints _ _)).trans managementKeyed
  have keyed : management'.key = managementKey := by
    rcases isManagement with rfl | rfl <;> assumption
  have keyed' : workload'.key = event.key := by
    rcases isWorkload with rfl | ⟨-, rfl⟩ <;> simpa
  have apart : management'.key ≠ workload'.key := by
    rw [keyed, keyed']
    exact premises.apart
  have changed : ((base.put management').put workload').put (withoutEndpoints management event).2 =
      (base.put (withoutEndpoints management event).2).put workload' := by
    rw [Shelf.put_comm base apart, Shelf.put_put _ (by rw [keyed, changedKeyed]), Shelf.put_comm]
    rw [keyed', changedKeyed]
    exact premises.apart.symm
  refine ⟨management', ?_, ?_, workload', isWorkload, changed, ?_⟩
  · rw [Shelf.get?_put_of_ne _ (by rw [keyed']; exact premises.apart.symm),
      Shelf.get?_put_self _ keyed]
  · rcases isManagement with rfl | rfl
    · rfl
    · exact withoutEndpoints_again premises.unique
  · rw [changed, Shelf.change_of_get? (Shelf.get?_put_self _ keyed'),
      Shelf.put_put _ (Cluster.key_removeFinalizer _ _).symm]
    rcases isWorkload with rfl | ⟨-, rfl⟩
    · rfl
    · rw [Cluster.removeFinalizer_removeFinalizer]

theorem deletionUnderWay_of_isUnreliable
    (premises : Premises base settings.managementCluster event management workload)
    (has : event.hasFinalizer Conventions.finalizer = true)
    (unreliable : store.IsUnreliable view) {world : World}
    (underWay : DeletionUnderWay base event management workload (view world)) :
    DeletionUnderWay base event management workload
      (view (handleDeletion settings store event world).2) := by
  rcases premises.deletion_resume underWay with
    ⟨management', managed, same, workload', isWorkload, changed, removed⟩
  rcases handleDeletion_of_isUnreliable settings unreliable has world with
    ⟨kept, -⟩ | ⟨management'', managed', made⟩
  · rwa [kept]
  · rw [managed, Option.some.injEq] at managed'
    subst managed'
    rw [same] at made
    rcases made with ⟨flushed, -⟩ | ⟨looked, -, finished⟩
    · exact ⟨_, workload', .inr rfl, isWorkload, flushed.trans changed⟩
    · exact ⟨_, _, .inr rfl, .inr ⟨looked, rfl⟩, finished.trans removed⟩

/-- A run with a reliable store finishes a deletion. -/
theorem deletion_finishes_of_isReliable
    (premises : Premises base settings.managementCluster event management workload)
    (has : event.hasFinalizer Conventions.finalizer = true)
    (reliable : store.IsReliable view) {world : World}
    (underWay : DeletionUnderWay base event management workload (view world)) :
    let run := handleDeletion settings store event world
    match withoutEndpoints management event with
    | (.error error, changed) =>
        run.1 = .error error ∧ view run.2 = (base.put changed).put workload
    | (.ok _, changed) =>
        run.1 = .ok (.onChange, .success) ∧
          view run.2 =
            (base.put changed).put (workload.removeFinalizer Conventions.finalizer) := by
  intro run
  rcases premises.deletion_resume underWay with
    ⟨management', managed, same, workload', isWorkload, changed, removed⟩
  have finishes := handleDeletion_of_isReliable settings reliable has managed
  simp only [same] at finishes
  cases gone : withoutEndpoints management event with
  | mk pass after =>
    simp only [gone] at finishes isWorkload changed removed ⊢
    cases pass with
    | error error =>
        have untouched : workload' = workload := by
          rcases isWorkload with untouched | ⟨looked, -⟩
          · exact untouched
          · cases looked
        exact ⟨finishes.1, by rw [finishes.2, changed, untouched]⟩
    | ok done => exact ⟨finishes.1, finishes.2.trans removed⟩

end Deletion

/-! ## All clusters -/

/-- After any number of runs for an event with stores that may fail, a run with a store that does
not fail has the same result, and leaves the same clusters, as if there had been no other. -/
theorem reconcile_converges {answers : Cluster → Except Error Findings}
    (gives : clients.Gives answers) (spares : clients.Spares view)
    (stores : List (ClusterStore World)) (unreliable : ∀ store ∈ stores, store.IsUnreliable view)
    (clean : ClusterStore World) (reliable : clean.IsReliable view) (world : World)
    (managed : (view world).get? settings.managementCluster = some management)
    (stored : (view world).get? event.key = some workload)
    (unique : UniqueNames management.hostedEndpoints)
    (trueNames : management.HasTrueNames workload) :
    let converged := reconcile settings clean clients event
      (worldAfter settings clients event stores world)
    let single := reconcile settings clean clients event world
    converged.1 = single.1 ∧ view converged.2 = view single.2 := by
  by_cases itself : event.key = settings.managementCluster
  · refine converges_of_idle (.ok (.onChange, .skipped)) (fun store => ?_) unreliable world
    rw [reconcile, if_pos itself]
    rfl
  have premises : Premises (view world) settings.managementCluster event management workload :=
    ⟨Ne.symm itself, managed, stored, unique, trueNames⟩
  cases deleting : event.isDeleting with
  | true =>
      have behaviour (store : ClusterStore World) :
          reconcile settings store clients event = handleDeletion settings store event := by
        rw [reconcile, if_neg itself, if_pos deleting]
      cases has : event.hasFinalizer Conventions.finalizer with
      | false =>
          refine converges_of_idle (.ok (.onChange, .skipped)) (fun store => ?_) unreliable world
          rw [behaviour]
          exact funext fun world => handleDeletion_of_not_hasFinalizer has settings store world
      | true =>
          refine converges_of_invariant
            (DeletionUnderWay (view world) event management workload) ?_ ?_ unreliable
            premises.deletion_start
          · intro store unreliable world underWay
            rw [behaviour]
            exact deletionUnderWay_of_isUnreliable premises has unreliable underWay
          · simp only [behaviour]
            have finishes (world' : World)
                (underWay : DeletionUnderWay (view world) event management workload
                  (view world')) :=
              deletion_finishes_of_isReliable premises has reliable underWay
            cases gone : withoutEndpoints management event with
            | mk pass changed =>
              simp only [gone] at finishes
              cases pass with
              | error error => exact ⟨_, _, finishes⟩
              | ok done => exact ⟨_, _, finishes⟩
  | false =>
      have notDeleting : ¬ event.isDeleting = true := by simp [deleting]
      cases type : event.loadBalancerType with
      | external =>
          refine converges_of_idle (.ok (.onChange, .skipped)) (fun store => ?_) unreliable world
          rw [reconcile, if_neg itself, if_neg notDeleting, type]
          rfl
      | other name =>
          refine converges_of_idle (.error (.unknownLoadBalancerType event.key.name name))
            (fun store => ?_) unreliable world
          rw [reconcile, if_neg itself, if_neg notDeleting, type]
          rfl
      | internal =>
          have behaviour (store : ClusterStore World) :
              reconcile settings store clients event =
                reconcileInternal settings store clients event := by
            rw [reconcile, if_neg itself, if_neg notDeleting, type]
          refine converges_of_invariant (UnderWay (view world) answers event management workload)
            ?_ ?_ unreliable premises.underWay_start
          · intro store unreliable world underWay
            rw [behaviour]
            exact underWay_of_isUnreliable gives spares premises unreliable underWay
          · simp only [behaviour]
            exact ⟨_, _, fun world' underWay =>
              finishes_of_isReliable gives spares premises reliable underWay⟩

open Landscape in
/-- The red cluster is connected in the end although two runs failed before. -/
theorem reconcile_converges_for_red :
    let converged := reconcile controllerSettings FlakyShelf.clean (clientFactory FlakyShelf)
      privateRed
      (worldAfter controllerSettings (clientFactory FlakyShelf) privateRed
        [FlakyShelf.store, FlakyShelf.store] flaky)
    let single := reconcile controllerSettings FlakyShelf.clean (clientFactory FlakyShelf)
      privateRed flaky
    converged.1 = single.1 ∧ converged.2.shelf = single.2.shelf := by
  have managed : flaky.shelf.get? controllerSettings.managementCluster = some management := by
    decide +kernel
  have stored : flaky.shelf.get? privateRed.key = some privateRed := by decide +kernel
  exact reconcile_converges (clientFactory_gives FlakyShelf) (clientFactory_spares (·.shelf))
    [FlakyShelf.store, FlakyShelf.store] (by simpa using FlakyShelf.isUnreliable_store)
    FlakyShelf.clean FlakyShelf.isReliable_clean flaky managed stored (by decide +kernel)
    (by decide +kernel)

end ClusterLinks.Controller
