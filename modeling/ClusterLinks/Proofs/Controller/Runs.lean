import ClusterLinks.Proofs.Controller.Plan
import ClusterLinks.Proofs.Store.Failures

/-!
# What a run leaves in the store

A run touches two clusters. With an unreliable store each of them ends up as it was or as the passes
have made it, and the two do not depend on each other; with a reliable one both end up as the
passes have made them.
-/

namespace ClusterLinks.Controller

variable {World : Type} {view : World → Shelf} {store : ClusterStore World}
variable {clients : ClientFactory World} {settings : ControllerSettings}
variable {management workload : Cluster}

/-! ## Loading the management cluster -/

theorem loadManagement_of_isUnreliable (unreliable : store.IsUnreliable view)
    (settings : ControllerSettings) (world : World) :
    ((∃ management, (view world).get? settings.managementCluster = some management ∧
          (loadManagement settings store world).1 = .ok (.ofCluster management)) ∨
        ∃ error, (loadManagement settings store world).1 = .error error) ∧
      view (loadManagement settings store world).2 = view world := by
  rcases ClusterScope.load_of_isUnreliable unreliable settings.managementCluster world with
    ⟨loaded, kept⟩
  unfold loadManagement
  rcases Action.bind_cases (ClusterScope.load store settings.managementCluster)
      (fun scope? => Action.ofOption (.invalidConfig
        ("management cluster " ++ settings.managementCluster.toText ++ " not found")) scope?)
      world with ⟨error, -, ends⟩ | ⟨scope?, found, goesOn⟩
  · rw [ends]
    exact ⟨.inr ⟨error, rfl⟩, kept⟩
  · rw [goesOn]
    have isThere : scope? = ((view world).get? settings.managementCluster).map .ofCluster := by
      rcases loaded with result | ⟨error, result⟩
      · exact Except.ok.inj (found.symm.trans result)
      · cases found.symm.trans result
    subst isThere
    cases there : (view world).get? settings.managementCluster with
    | none => exact ⟨.inr ⟨_, rfl⟩, kept⟩
    | some management => exact ⟨.inl ⟨management, rfl, rfl⟩, kept⟩

theorem loadManagement_of_isReliable (reliable : store.IsReliable view) {world : World}
    (there : (view world).get? settings.managementCluster = some management) :
    (loadManagement settings store world).1 = .ok (.ofCluster management) ∧
      view (loadManagement settings store world).2 = view world := by
  rcases ClusterScope.load_of_isReliable reliable settings.managementCluster world with
    ⟨loaded, kept⟩
  unfold loadManagement
  rw [Action.bind_run]
  cases answer : ClusterScope.load store settings.managementCluster world with
  | mk result after =>
    rw [answer] at loaded kept
    simp only [there] at loaded
    subst loaded
    exact ⟨rfl, kept⟩

/-! ## Loaded clusters -/

/-- What the controller makes of the way in which the passes end, if the store does not fail. -/
def verdict (settings : ControllerSettings) : Except Error Unit → Except Error (NextLook × Outcome)
  | .ok _ => .ok (.afterSeconds settings.syncPeriod, .success)
  | .error error =>
      if error.isRetryable then .ok (.afterSeconds settings.retryInterval, .retry)
      else .error error

/-- Where all changes could be kept, the passes decide. -/
theorem passOutcome_of_flushed (pass : Except Error Unit) {flushes : List (Except Error Unit)}
    (flushed : ∀ flush ∈ flushes, flush = .ok ()) : passOutcome pass flushes = pass := by
  have folded : flushes.foldr (fun flush rest => flush.bind fun _ => rest) pass = pass := by
    induction flushes with
    | nil => rfl
    | cons flush rest ih =>
        rw [List.foldr_cons, flushed flush List.mem_cons_self]
        exact ih fun other member => flushed other (List.mem_cons_of_mem _ member)
  cases pass with
  | ok done => exact folded
  | error error =>
      rw [passOutcome, folded]
      cases error.isRetryable <;> rfl

theorem reconcileLoaded_run (settings : ControllerSettings) (store : ClusterStore World)
    (clients : ClientFactory World) (management workload : ClusterScope) (world : World) :
    reconcileLoaded settings store clients management workload world =
      let passes := reconcilePrivate clients ⟨management, workload, world⟩
      let first := passes.2.management.close store passes.2.world
      let second := passes.2.workload.close store first.2
      (verdict settings (passOutcome passes.1 [first.1, second.1]), second.2) := by
  simp only [reconcileLoaded, Action.bind_run, Action.step_run, Action.attempt_run]
  generalize passOutcome _ _ = outcome
  cases outcome with
  | ok done => rfl
  | error error => cases retryable : error.isRetryable <;> simp [verdict, retryable]

/-- After the passes the store is as it was, and a change to the management cluster leaves the
workload cluster where it was loaded. -/
theorem stored_after_passes (spares : clients.Spares view) {managementKey workloadKey : ObjectKey}
    (apart : managementKey ≠ workloadKey) {world : World}
    (managed : (view world).get? managementKey = some management)
    (stored : (view world).get? workloadKey = some workload) :
    let after := (reconcilePrivate clients
      ⟨.ofCluster management, .ofCluster workload, world⟩).2
    (view after.world).get? managementKey = some after.management.loaded ∧
      ∀ kept, kept = after.management.loaded ∨ kept = after.management.current →
        ((view world).put kept).get? workloadKey = some after.workload.loaded := by
  intro after
  have stays := stays_reconcilePrivate spares ⟨.ofCluster management, .ofCluster workload, world⟩
  have keyed : management.key = managementKey := (view world).keyed managed
  constructor
  · rw [stays.world, stays.managementLoaded]
    exact managed
  · intro kept isKept
    have keptKeyed : kept.key = managementKey := by
      rcases isKept with rfl | rfl
      · exact (congrArg Cluster.key stays.managementLoaded).trans keyed
      · exact (Cluster.key_of_core_eq stays.managementCore).trans keyed
    rw [Shelf.get?_put_of_ne _ (by rwa [keptKeyed]), stays.workloadLoaded]
    exact stored

/-- A run with a reliable store keeps both clusters as the passes have made them. -/
theorem reconcileLoaded_of_isReliable (settings : ControllerSettings)
    (reliable : store.IsReliable view) (spares : clients.Spares view)
    {managementKey workloadKey : ObjectKey}
    (apart : managementKey ≠ workloadKey) {world : World}
    (managed : (view world).get? managementKey = some management)
    (stored : (view world).get? workloadKey = some workload) :
    let passes := reconcilePrivate clients ⟨.ofCluster management, .ofCluster workload, world⟩
    let run := reconcileLoaded settings store clients (.ofCluster management)
      (.ofCluster workload) world
    run.1 = verdict settings passes.1 ∧
      view run.2 =
        ((view world).put passes.2.management.current).put passes.2.workload.current := by
  intro passes run
  have stays := stays_reconcilePrivate spares ⟨.ofCluster management, .ofCluster workload, world⟩
  have sameView : view passes.2.world = view world := stays.world
  rcases stored_after_passes spares apart managed stored with ⟨managedAfter, storedAfter⟩
  rcases ClusterScope.close_of_isReliable reliable _ managedAfter with ⟨first, kept⟩
  rw [sameView] at kept
  have storedStill := storedAfter _ (.inr rfl)
  rw [← kept] at storedStill
  rcases ClusterScope.close_of_isReliable reliable _ storedStill with ⟨second, kept'⟩
  have runIs := reconcileLoaded_run settings store clients (.ofCluster management)
    (.ofCluster workload) world
  have outcome : passOutcome passes.1 [.ok (), .ok ()] = passes.1 :=
    passOutcome_of_flushed _ (by simp)
  simp only [first, second] at runIs
  rw [show run = _ from runIs]
  exact ⟨congrArg (verdict settings) outcome, kept'.trans (by rw [kept])⟩

/-- A run with an unreliable store keeps each cluster as it was or as the passes have made it. -/
theorem reconcileLoaded_of_isUnreliable (settings : ControllerSettings)
    (unreliable : store.IsUnreliable view) (spares : clients.Spares view)
    {managementKey workloadKey : ObjectKey}
    (apart : managementKey ≠ workloadKey) {world : World}
    (managed : (view world).get? managementKey = some management)
    (stored : (view world).get? workloadKey = some workload) :
    let passes := reconcilePrivate clients ⟨.ofCluster management, .ofCluster workload, world⟩
    let run := reconcileLoaded settings store clients (.ofCluster management)
      (.ofCluster workload) world
    ∃ management' workload',
      (management' = management ∨ management' = passes.2.management.current) ∧
      (workload' = workload ∨ workload' = passes.2.workload.current) ∧
      view run.2 = ((view world).put management').put workload' := by
  intro passes run
  have stays := stays_reconcilePrivate spares ⟨.ofCluster management, .ofCluster workload, world⟩
  have sameView : view passes.2.world = view world := stays.world
  rcases stored_after_passes spares apart managed stored with ⟨managedAfter, storedAfter⟩
  have first : ∃ management',
      (management' = passes.2.management.loaded ∨ management' = passes.2.management.current) ∧
      view (passes.2.management.close store passes.2.world).2 = (view world).put management' := by
    rw [← sameView]
    rcases ClusterScope.close_of_isUnreliable unreliable _ managedAfter with ⟨-, kept⟩ | ⟨-, kept⟩
    · exact ⟨_, .inr rfl, kept⟩
    · exact ⟨_, .inl rfl, kept⟩
  rcases first with ⟨management', isManagement, kept⟩
  have storedStill := storedAfter management' isManagement
  rw [← kept] at storedStill
  rw [show passes.2.management.loaded = management from stays.managementLoaded] at isManagement
  have runIs := reconcileLoaded_run settings store clients (.ofCluster management)
    (.ofCluster workload) world
  rw [show run = _ from runIs]
  rcases ClusterScope.close_of_isUnreliable unreliable _ storedStill with ⟨-, kept'⟩ | ⟨-, kept'⟩
  · exact ⟨management', _, isManagement, .inr rfl, kept'.trans (by rw [kept])⟩
  · exact ⟨management', _, isManagement, .inl stays.workloadLoaded, kept'.trans (by rw [kept])⟩

/-! ## Runs for clusters that stay -/

/-- The shelf on which a run for a cluster works: the cluster gets the finalizer, unless the event
says that it has it. -/
def admitted (cluster : Cluster) (shelf : Shelf) : Shelf :=
  if cluster.hasFinalizer Conventions.finalizer then shelf
  else shelf.change cluster.key (·.addFinalizer Conventions.finalizer)

/-- The cluster on which a run works, for a cluster in the store. -/
def admittedCluster (event stored : Cluster) : Cluster :=
  if event.hasFinalizer Conventions.finalizer then stored
  else stored.addFinalizer Conventions.finalizer

@[simp] theorem key_admittedCluster (event stored : Cluster) :
    (admittedCluster event stored).key = stored.key := by
  unfold admittedCluster
  split <;> simp

theorem admitted_of_get? {event stored : Cluster} {shelf : Shelf}
    (there : shelf.get? event.key = some stored) :
    admitted event shelf = shelf.put (admittedCluster event stored) := by
  unfold admitted admittedCluster
  split
  · exact (Shelf.put_of_get? there).symm
  · exact Shelf.change_of_get? there _

/-- A cluster that was admitted once needs no change to be admitted again, nor does it after the
passes. -/
theorem admittedCluster_of_core_eq {event stored cluster : Cluster}
    (sameCore : cluster.core = (admittedCluster event stored).core) :
    admittedCluster event cluster = cluster := by
  unfold admittedCluster at sameCore ⊢
  cases has : event.hasFinalizer Conventions.finalizer with
  | true => rfl
  | false =>
      simp only [has, Bool.false_eq_true, ↓reduceIte] at sameCore ⊢
      apply Cluster.addFinalizer_of_hasFinalizer
      rw [Cluster.hasFinalizer_of_core_eq sameCore, Cluster.hasFinalizer_addFinalizer]

/-- The first step of a run for a cluster that stays. -/
def ensureFinalizer (store : ClusterStore World) (cluster : Cluster) : Action World Unit :=
  if cluster.hasFinalizer Conventions.finalizer then pure ()
  else store.addFinalizer cluster.key Conventions.finalizer

/-- The steps that follow. -/
def afterAdmission (settings : ControllerSettings) (store : ClusterStore World)
    (clients : ClientFactory World) (key : ObjectKey) : Action World (NextLook × Outcome) := do
  let workload? ← ClusterScope.load store key
  match workload? with
  | none => pure (.onChange, .skipped)
  | some workload => do
      let management ← loadManagement settings store
      reconcileLoaded settings store clients management workload

theorem reconcileInternal_eq (settings : ControllerSettings) (store : ClusterStore World)
    (clients : ClientFactory World) (cluster : Cluster) :
    reconcileInternal settings store clients cluster =
      ensureFinalizer store cluster >>= fun _ =>
        afterAdmission settings store clients cluster.key := by
  unfold reconcileInternal ensureFinalizer
  cases cluster.hasFinalizer Conventions.finalizer <;> rfl

theorem ensureFinalizer_of_isReliable (reliable : store.IsReliable view) (cluster : Cluster)
    (world : World) :
    (ensureFinalizer store cluster world).1 = .ok () ∧
      view (ensureFinalizer store cluster world).2 = admitted cluster (view world) := by
  unfold ensureFinalizer admitted
  split
  · exact ⟨rfl, rfl⟩
  · exact reliable.addFinalizer _ _ world

theorem ensureFinalizer_of_isUnreliable (unreliable : store.IsUnreliable view) (cluster : Cluster)
    (world : World) :
    view (ensureFinalizer store cluster world).2 = admitted cluster (view world) ∨
      (∃ error, (ensureFinalizer store cluster world).1 = .error error) ∧
        view (ensureFinalizer store cluster world).2 = view world := by
  unfold ensureFinalizer admitted
  split
  · exact .inl rfl
  · rcases unreliable.addFinalizer cluster.key Conventions.finalizer world with ⟨-, made⟩ | failed
    · exact .inl made
    · exact .inr failed

/-- The store that a run may leave behind when it has started its passes on two clusters: each of
them is as it was or as the passes have made it. -/
def KeepsEither (shelf : Shelf) (management workload : Cluster) (passes : Workspace World)
    (after : Shelf) : Prop :=
  ∃ management' workload',
    (management' = management ∨ management' = passes.management.current) ∧
    (workload' = workload ∨ workload' = passes.workload.current) ∧
    after = (shelf.put management').put workload'

theorem afterAdmission_of_isReliable (reliable : store.IsReliable view)
    (spares : clients.Spares view) {key : ObjectKey} (apart : settings.managementCluster ≠ key)
    {world : World}
    (managed : (view world).get? settings.managementCluster = some management)
    (stored : (view world).get? key = some workload) :
    let run := afterAdmission settings store clients key world
    ∃ between,
      let passes := reconcilePrivate clients ⟨.ofCluster management, .ofCluster workload, between⟩
      run.1 = verdict settings passes.1 ∧
        view run.2 =
          ((view world).put passes.2.management.current).put passes.2.workload.current := by
  intro run
  rcases ClusterScope.load_of_isReliable reliable key world with ⟨loaded, kept⟩
  rw [stored] at loaded
  rcases loadManagement_of_isReliable reliable (kept ▸ managed) with ⟨loaded', kept'⟩
  have sameView := kept'.trans kept
  rw [← sameView] at managed stored ⊢
  have ends := reconcileLoaded_of_isReliable settings reliable spares apart managed stored
  refine ⟨(loadManagement settings store (ClusterScope.load store key world).2).2, ?_⟩
  have runIs : run = reconcileLoaded settings store clients (.ofCluster management)
      (.ofCluster workload)
      (loadManagement settings store (ClusterScope.load store key world).2).2 := by
    have first : ClusterScope.load store key world = (.ok (some (.ofCluster workload)), _) :=
      Prod.ext loaded rfl
    have second : loadManagement settings store (ClusterScope.load store key world).2 =
        (.ok (.ofCluster management), _) :=
      Prod.ext loaded' rfl
    rw [show run = _ from Action.bind_of_ok first _]
    exact Action.bind_of_ok second _
  rw [runIs]
  exact ends

theorem afterAdmission_of_isUnreliable (unreliable : store.IsUnreliable view)
    (spares : clients.Spares view) {key : ObjectKey} (apart : settings.managementCluster ≠ key)
    (world : World) :
    let run := afterAdmission settings store clients key world
    view run.2 = view world ∨
      ∃ management workload between,
        (view world).get? settings.managementCluster = some management ∧
        (view world).get? key = some workload ∧
        KeepsEither (view world) management workload (reconcilePrivate clients
          ⟨.ofCluster management, .ofCluster workload, between⟩).2 (view run.2) := by
  intro run
  rcases ClusterScope.load_of_isUnreliable unreliable key world with ⟨loaded, kept⟩
  have runIs : run = afterAdmission settings store clients key world := rfl
  rw [afterAdmission, Action.bind_run] at runIs
  cases answer : ClusterScope.load store key world with
  | mk result between =>
    simp only [answer] at loaded kept runIs
    rcases loaded with found | ⟨error, fails⟩
    · subst found
      cases stored : (view world).get? key with
      | none =>
          simp only [stored] at runIs
          exact .inl (by rw [runIs]; exact kept)
      | some workload =>
          simp only [stored, Option.map_some, Action.bind_run] at runIs
          rcases loadManagement_of_isUnreliable unreliable settings between with ⟨loaded', kept'⟩
          cases answer' : loadManagement settings store between with
          | mk result' between' =>
            simp only [answer'] at loaded' kept' runIs
            have sameView := kept'.trans kept
            rw [kept] at loaded'
            rcases loaded' with ⟨management, managed, found'⟩ | ⟨error, fails⟩
            · subst found'
              rw [← sameView] at managed stored ⊢
              refine .inr ⟨management, workload, between', managed, rfl, ?_⟩
              rw [runIs]
              exact reconcileLoaded_of_isUnreliable settings unreliable spares apart managed stored
            · subst fails
              exact .inl (by rw [runIs]; exact sameView)
    · subst fails
      exact .inl (by rw [runIs]; exact kept)

/-- What a run with an unreliable store leaves behind. -/
theorem reconcileInternal_of_isUnreliable (unreliable : store.IsUnreliable view)
    (spares : clients.Spares view) {cluster : Cluster}
    (apart : settings.managementCluster ≠ cluster.key) (world : World) :
    let run := reconcileInternal settings store clients cluster world
    view run.2 = view world ∨ view run.2 = admitted cluster (view world) ∨
      ∃ management workload between,
        (admitted cluster (view world)).get? settings.managementCluster = some management ∧
        (admitted cluster (view world)).get? cluster.key = some workload ∧
        KeepsEither (admitted cluster (view world)) management workload (reconcilePrivate clients
          ⟨.ofCluster management, .ofCluster workload, between⟩).2 (view run.2) := by
  intro run
  have runIs : run = reconcileInternal settings store clients cluster world := rfl
  rw [reconcileInternal_eq, Action.bind_run] at runIs
  have admission := ensureFinalizer_of_isUnreliable unreliable cluster world
  cases answer : ensureFinalizer store cluster world with
  | mk result between =>
    simp only [answer] at admission runIs
    cases result with
    | error error =>
        rw [runIs]
        rcases admission with made | ⟨-, kept⟩
        · exact .inr (.inl made)
        · exact .inl kept
    | ok done =>
        rcases admission with made | ⟨⟨error, fails⟩, -⟩
        · rw [← made, runIs]
          exact .inr (afterAdmission_of_isUnreliable unreliable spares apart between)
        · cases fails

theorem reconcileInternal_of_isReliable (reliable : store.IsReliable view)
    (spares : clients.Spares view) {cluster : Cluster}
    (apart : settings.managementCluster ≠ cluster.key) {world : World}
    (managed : (admitted cluster (view world)).get? settings.managementCluster = some management)
    (stored : (admitted cluster (view world)).get? cluster.key = some workload) :
    let run := reconcileInternal settings store clients cluster world
    ∃ between,
      let passes := reconcilePrivate clients ⟨.ofCluster management, .ofCluster workload, between⟩
      run.1 = verdict settings passes.1 ∧
        view run.2 = ((admitted cluster (view world)).put passes.2.management.current).put
          passes.2.workload.current := by
  intro run
  rcases ensureFinalizer_of_isReliable reliable cluster world with ⟨done, made⟩
  have first : ensureFinalizer store cluster world =
      (.ok (), (ensureFinalizer store cluster world).2) :=
    Prod.ext done rfl
  have runIs : run = afterAdmission settings store clients cluster.key
      (ensureFinalizer store cluster world).2 := by
    simp only [run, reconcileInternal_eq]
    exact Action.bind_of_ok first _
  rw [← made] at managed stored ⊢
  rw [runIs]
  exact afterAdmission_of_isReliable reliable spares apart managed stored

/-! ## Runs for clusters that are being deleted -/

/-- The management cluster without the endpoints that are named for the links of a cluster, and
whether they could be looked for at all. -/
def withoutEndpoints (management cluster : Cluster) : Except Error Unit × Cluster :=
  let (result, changed, _, _) := (Pass.delete : Pass Unit Unit).run management cluster ()
  (result, changed)

/-- The steps that follow when the management cluster is there. -/
def tearDown (store : ClusterStore World) (cluster : Cluster) (management : ClusterScope) :
    Action World (NextLook × Outcome) := do
  let (pass, management) := removeEndpoints management cluster
  let flush ← (management.close store).attempt
  Action.ofExcept (passOutcome pass [flush])
  store.removeFinalizer cluster.key Conventions.finalizer
  pure (.onChange, .success)

theorem handleDeletion_of_hasFinalizer {cluster : Cluster}
    (has : cluster.hasFinalizer Conventions.finalizer = true) (settings : ControllerSettings)
    (store : ClusterStore World) :
    handleDeletion settings store cluster =
      loadManagement settings store >>= tearDown store cluster := by
  unfold handleDeletion
  rw [has]
  rfl

theorem handleDeletion_of_not_hasFinalizer {cluster : Cluster}
    (hasNot : cluster.hasFinalizer Conventions.finalizer = false) (settings : ControllerSettings)
    (store : ClusterStore World) (world : World) :
    handleDeletion settings store cluster world = (.ok (.onChange, .skipped), world) := by
  unfold handleDeletion
  rw [hasNot]
  rfl

theorem passOutcome_of_failed_flush (pass : Except Error Unit) (error : Error) :
    ∃ error', passOutcome pass [.error error] = .error error' := by
  cases pass with
  | ok done => exact ⟨error, rfl⟩
  | error error' =>
      cases retryable : error'.isRetryable <;> simp [passOutcome, retryable, Except.bind]

theorem tearDown_run (store : ClusterStore World) (cluster management : Cluster)
    (world : World) :
    tearDown store cluster (.ofCluster management) world =
      let (pass, changed) := withoutEndpoints management cluster
      let flush := (ClusterScope.mk management changed).close store world
      match passOutcome pass [flush.1] with
      | .error error => (.error error, flush.2)
      | .ok _ =>
          let removal := store.removeFinalizer cluster.key Conventions.finalizer flush.2
          (removal.1.map fun _ => (.onChange, .success), removal.2) := by
  simp only [tearDown, removeEndpoints, withoutEndpoints, Action.bind_run, Action.attempt_run,
    Action.ofExcept_run, ClusterScope.ofCluster]
  cases passOutcome _ _ with
  | error error => rfl
  | ok done =>
      simp only
      cases store.removeFinalizer cluster.key Conventions.finalizer _ with
      | mk result after => cases result <;> rfl

theorem core_withoutEndpoints (management cluster : Cluster) :
    (withoutEndpoints management cluster).2.core = management.core :=
  Pass.core_host_of_run (Pass.delete : Pass Unit Unit) management cluster ()

theorem withoutEndpoints_of_directories {cluster : Cluster} {endpoints : EndpointDirectory}
    {links : LinkDirectory} (hosts : EndpointDirectory.ofCluster management = .ok endpoints)
    (owns : LinkDirectory.ofCluster cluster = .ok links) :
    withoutEndpoints management cluster =
      (.ok (), management.withSubnets
        (endpoints.update (Pass.removeWanted endpoints.identity links)).subnets) := by
  simp only [withoutEndpoints, Pass.run_of_directories hosts owns, Pass.delete_run]

/-- A deletion with a reliable store takes the endpoints and then the finalizer away, unless the
endpoints cannot be looked for. -/
theorem handleDeletion_of_isReliable (settings : ControllerSettings)
    (reliable : store.IsReliable view) {cluster : Cluster}
    (has : cluster.hasFinalizer Conventions.finalizer = true) {world : World}
    (managed : (view world).get? settings.managementCluster = some management) :
    let run := handleDeletion settings store cluster world
    match withoutEndpoints management cluster with
    | (.error error, changed) =>
        run.1 = .error error ∧ view run.2 = (view world).put changed
    | (.ok _, changed) =>
        run.1 = .ok (.onChange, .success) ∧
          view run.2 = ((view world).put changed).change cluster.key
            (·.removeFinalizer Conventions.finalizer) := by
  intro run
  rcases loadManagement_of_isReliable reliable managed with ⟨loaded, kept⟩
  have first : loadManagement settings store world = (.ok (.ofCluster management), _) :=
    Prod.ext loaded rfl
  have runIs : run = _ :=
    (congrFun (handleDeletion_of_hasFinalizer has settings store) world).trans
      ((Action.bind_of_ok first _).trans (tearDown_run _ _ _ _))
  rw [← kept] at managed ⊢
  obtain ⟨pass, changed, gone⟩ :
      ∃ pass changed, withoutEndpoints management cluster = (pass, changed) := ⟨_, _, rfl⟩
  rcases ClusterScope.close_of_isReliable reliable ⟨management, changed⟩ managed with
    ⟨flushed, flush⟩
  have outcome : passOutcome pass [.ok ()] = pass := passOutcome_of_flushed pass (by simp)
  simp only [gone, flushed, outcome] at runIs ⊢
  cases pass with
  | error error =>
      rw [runIs]
      exact ⟨rfl, flush⟩
  | ok done =>
      simp only at runIs ⊢
      rcases reliable.removeFinalizer cluster.key Conventions.finalizer
        ((ClusterScope.mk management changed).close store
          (loadManagement settings store world).2).2 with ⟨removed, removal⟩
      rw [flush] at removal
      rw [runIs]
      exact ⟨by rw [removed]; rfl, removal⟩

/-- A deletion with an unreliable store keeps the management cluster as it was or without the
endpoints; the finalizer goes only after that, and only then is the deletion a success. -/
theorem handleDeletion_of_isUnreliable (settings : ControllerSettings)
    (unreliable : store.IsUnreliable view) {cluster : Cluster}
    (has : cluster.hasFinalizer Conventions.finalizer = true) (world : World) :
    let run := handleDeletion settings store cluster world
    view run.2 = view world ∧ (∃ error, run.1 = .error error) ∨
      ∃ management, (view world).get? settings.managementCluster = some management ∧
        let (pass, changed) := withoutEndpoints management cluster
        (view run.2 = (view world).put changed ∧ ∃ error, run.1 = .error error) ∨
          pass = .ok () ∧ run.1 = .ok (.onChange, .success) ∧
            view run.2 = ((view world).put changed).change cluster.key
              (·.removeFinalizer Conventions.finalizer) := by
  intro run
  have runIs : run = _ := congrFun (handleDeletion_of_hasFinalizer has settings store) world
  rw [Action.bind_run] at runIs
  rcases loadManagement_of_isUnreliable unreliable settings world with ⟨loaded, kept⟩
  cases answer : loadManagement settings store world with
  | mk result between =>
    simp only [answer] at loaded kept runIs
    rcases loaded with ⟨management, managed, found⟩ | ⟨error, fails⟩
    · subst found
      rw [← kept] at managed ⊢
      obtain ⟨pass, changed, gone⟩ :
          ∃ pass changed, withoutEndpoints management cluster = (pass, changed) := ⟨_, _, rfl⟩
      simp only [tearDown_run, gone] at runIs
      rcases ClusterScope.close_of_isUnreliable unreliable
        ⟨management, changed⟩ managed with ⟨flushed, flush⟩ | ⟨⟨error, failed⟩, flush⟩
      · have outcome : passOutcome pass [.ok ()] = pass := passOutcome_of_flushed pass (by simp)
        simp only [flushed, outcome] at runIs flush
        refine .inr ⟨management, managed, ?_⟩
        rw [gone]
        cases pass with
        | error error => exact .inl (by rw [runIs]; exact ⟨flush, error, rfl⟩)
        | ok done =>
            simp only at runIs ⊢
            rw [runIs, ← flush]
            rcases unreliable.removeFinalizer cluster.key Conventions.finalizer
              ((ClusterScope.mk management changed).close store between).2 with
              ⟨removed, removal⟩ | ⟨⟨error, fails⟩, same⟩
            · exact .inr ⟨trivial, by rw [removed]; rfl, removal⟩
            · exact .inl ⟨same, error, by rw [fails]; rfl⟩
      · rcases passOutcome_of_failed_flush pass error with ⟨error', outcome⟩
        simp only [failed, outcome] at runIs
        rw [runIs]
        exact .inl ⟨flush.trans (Shelf.put_of_get? managed), error', rfl⟩
    · subst fails
      exact .inl (by rw [runIs]; exact ⟨kept, error, rfl⟩)

end ClusterLinks.Controller

/-! ## The landscape of the controller -/

namespace ClusterLinks.Landscape

/-- The settings under which the management cluster is the one of the landscape. -/
def controllerSettings : ControllerSettings where
  managementCluster := management.key

/-- The red cluster with an API server that is not open to the public. -/
def privateRed : Cluster :=
  { red with
    spec.network.apiServerLoadBalancer :=
      red.spec.network.apiServerLoadBalancer.map ({ · with type := some "Internal" }) }

/-- What the client of the landscape finds. -/
def findings : Findings := fun _ name =>
  .ok (some
    { name := some name,
      interfaces := [{ configurations := [{ address := some "10.0.0.4" }] }] })

/-- The client of the landscape for every cluster of any world. -/
def clientFactory (World : Type) : ClientFactory World where
  client _ := pure { lookup := fun group name => .ofExcept (findings group name) }

theorem clientFactory_gives (World : Type) : (clientFactory World).Gives fun _ => .ok findings :=
  fun _ _ => ⟨_, rfl, fun _ _ _ => rfl⟩

theorem clientFactory_spares {World Inner : Type} (view : World → Inner) :
    (clientFactory World).Spares view where
  call _ _ := rfl
  client _ _ _ found := by
    cases found
    exact fun _ _ _ => rfl

/-- Both clusters, and faults that let a first run add the finalizer, keep the management cluster
and fail with the red cluster, and a second run fail at once. -/
def flaky : FlakyShelf where
  shelf := (Shelf.empty.put management).put privateRed
  faults := [false, false, false, false, true, true]

end ClusterLinks.Landscape
