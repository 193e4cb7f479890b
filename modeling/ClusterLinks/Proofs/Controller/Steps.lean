import ClusterLinks.Proofs.Controller.Watching

/-!
# The steps of a run

A run for a cluster that stays takes a handful of steps: the finalizer, two loads, the passes with
what they need, two flushes. Here the run is told step by step, and every step that is executed goes
on record with how it ended. Without the record it is the run itself.
-/

namespace ClusterLinks

variable {World α β : Type}

/-- The steps of a run for a cluster that stays. -/
inductive Step where
  | finalizer
  | loadWorkload
  | loadManagement
  | identity
  | client
  | directories
  | apiServerPass
  | ingressClient
  | ingressDirectories
  | ingressPass
  | flushManagement
  | flushWorkload
  deriving DecidableEq

/-- Whether the step is one of the two passes. -/
def Step.isPass : Step → Bool
  | .apiServerPass | .ingressPass => true
  | _ => false

/-- A step that was executed: how it ended, and the cluster that it found, if it was to find one. -/
structure StepRecord where
  step : Step
  result : Except Error (Option Cluster)
  deriving DecidableEq

namespace StepRecord

def Succeeds (record : StepRecord) : Prop :=
  ∃ found?, record.result = .ok found?

/-- The step failed, and waiting may help. -/
def Waits (record : StepRecord) : Prop :=
  ∃ error, record.result = .error error ∧ error.isRetryable = true

/-- The step failed for good. -/
def IsFatal (record : StepRecord) : Prop :=
  ∃ error, record.result = .error error ∧ error.isRetryable = false

theorem Succeeds.not_isFatal {record : StepRecord} (succeeds : record.Succeeds) :
    ¬ record.IsFatal := by
  obtain ⟨found?, succeeds⟩ := succeeds
  rintro ⟨error, fails, -⟩
  cases succeeds.symm.trans fails

theorem Waits.not_isFatal {record : StepRecord} (waits : record.Waits) : ¬ record.IsFatal := by
  obtain ⟨error, fails, retryable⟩ := waits
  rintro ⟨error', fails', fatal⟩
  cases fails.symm.trans fails'
  cases retryable.symm.trans fatal

end StepRecord

/-- A world with the steps that were executed in it. -/
structure Traced (World : Type) where
  world : World
  steps : List StepRecord

namespace Action

/-- Executes a step and puts it on record. -/
def traced (step : Step) (found? : α → Option Cluster) (action : Action World α) :
    Action (Traced World) α := fun traced =>
  let (result, world) := action traced.world
  (result, ⟨world, traced.steps ++ [⟨step, result.map found?⟩]⟩)

theorem traced_run (step : Step) (found? : α → Option Cluster) (action : Action World α)
    (traced : Traced World) :
    action.traced step found? traced = ((action traced.world).1,
      ⟨(action traced.world).2, traced.steps ++ [⟨step, (action traced.world).1.map found?⟩]⟩) :=
  rfl

/-- A step that is to find nothing. -/
abbrev executed (step : Step) (action : Action World α) : Action (Traced World) α :=
  action.traced step fun _ => none

theorem traced_shows (step : Step) (found? : α → Option Cluster) (action : Action World α) :
    (action.traced step found?).Shows (·.world) action :=
  fun _ => ⟨rfl, rfl⟩

theorem executed_shows (step : Step) (action : Action World α) :
    (action.executed step).Shows (·.world) action :=
  fun _ => ⟨rfl, rfl⟩

/-- Two steps show the second one alone if that one includes the first one. -/
theorem executed_bind_shows (step step' : Step) {first : Action World Unit}
    {second : Action World α}
    (included : (first >>= fun _ => second) = second) :
    (first.executed step >>= fun _ => second.executed step').Shows (·.world) second := by
  have both := (executed_shows step first).bind fun _ => executed_shows step' second
  rwa [included] at both

end Action

/-! ## Directories -/

/-- Whether the directories that a pass works on can be made. -/
def directories (host owner : Cluster) : Except Error Unit :=
  match EndpointDirectory.ofCluster host, LinkDirectory.ofCluster owner with
  | .error error, _ => .error error
  | .ok _, .error error => .error error
  | .ok _, .ok _ => .ok ()

/-- Either of the two directories may be the one that cannot be made. -/
theorem directories_cases {host owner : Cluster} {error : Error}
    (fails : directories host owner = .error error) :
    EndpointDirectory.ofCluster host = .error error ∨
      ∃ endpoints, EndpointDirectory.ofCluster host = .ok endpoints ∧
        LinkDirectory.ofCluster owner = .error error := by
  unfold directories at fails
  cases hosts : EndpointDirectory.ofCluster host with
  | error error' =>
      rw [hosts] at fails
      cases fails
      exact .inl rfl
  | ok endpoints =>
    cases owns : LinkDirectory.ofCluster owner with
    | error error' =>
        rw [hosts, owns] at fails
        cases fails
        exact .inr ⟨endpoints, rfl, rfl⟩
    | ok links =>
        rw [hosts, owns] at fails
        cases fails

namespace Pass

variable {pass : Pass World Unit} {error : Error}

/-- Without directories a pass is not made. -/
theorem run_of_not_directories {host owner : Cluster}
    (fails : directories host owner = .error error)
    (world : World) : run pass host owner world = (.error error, host, owner, world) := by
  obtain hosts | ⟨endpoints, hosts, owns⟩ := directories_cases fails
  · simp only [run, hosts]
  · simp only [run, hosts, owns]

theorem runAlone_of_not_directories {cluster : Cluster}
    (fails : directories cluster cluster = .error error) (world : World) :
    runAlone pass cluster world = (.error error, cluster, world) := by
  obtain hosts | ⟨endpoints, hosts, owns⟩ := directories_cases fails
  · simp only [runAlone, hosts]
  · simp only [runAlone, hosts, owns]

end Pass

namespace Controller

/-- Makes the directories for a pass on two clusters of the workspace. -/
def makeDirectories (host owner : Workspace World → Cluster) : Action (Workspace World) Unit :=
  fun workspace => (directories (host workspace) (owner workspace), workspace)

/-- A pass that is not made without its directories can have them made first. -/
theorem makeDirectories_bind {host owner : Workspace World → Cluster}
    {pass : Action (Workspace World) Unit}
    (fails : ∀ workspace error, directories (host workspace) (owner workspace) = .error error →
      pass workspace = (.error error, workspace)) :
    (makeDirectories host owner >>= fun _ => pass) = pass := by
  funext workspace
  rw [Action.bind_run, makeDirectories]
  cases made : directories (host workspace) (owner workspace) with
  | error error => exact (fails workspace error made).symm
  | ok done => rfl

theorem makeDirectories_apiServerPass (client : EndpointsClient World) :
    (makeDirectories (·.management.current) (·.workload.current) >>= fun _ =>
      apiServerPass client) = apiServerPass client := by
  apply makeDirectories_bind
  intro workspace error fails
  simp only [apiServerPass, Pass.run_of_not_directories fails]

theorem makeDirectories_ingressPass (client : EndpointsClient World) (management : ClusterIdentity)
    (link : PrivateLink) :
    (makeDirectories (·.workload.current) (·.workload.current) >>= fun _ =>
      ingressPass client management link) = ingressPass client management link := by
  apply makeDirectories_bind
  intro workspace error fails
  simp only [ingressPass, Pass.runAlone_of_not_directories fails]

/-! ## The run, step by step -/

section Steps

/-- The turn of the ingress, step by step. -/
def traceIngress (clients : ClientFactory World) (identity : ClusterIdentity)
    (type : LoadBalancerType) (links : List PrivateLink) : Action (Traced (Workspace World)) Unit :=
  match type, links with
  | .internal, link :: _ => do
      let workload ← Action.inspect (·.world.workload.current)
      let client ← (outside (clients.client workload)).executed .ingressClient
      (makeDirectories (·.workload.current) (·.workload.current)).executed .ingressDirectories
      (ingressPass client identity link).executed .ingressPass
  | _, _ => pure ()

/-- What follows the pass for the API server, step by step. -/
def traceAfterApiServer (clients : ClientFactory World) (identity : ClusterIdentity)
    (type : LoadBalancerType) (links : List PrivateLink) (result : Except Error Unit) :
    Action (Traced (Workspace World)) Unit :=
  if isFatal result then Action.ofExcept result
  else do
    traceIngress clients identity type links
    Action.ofExcept result

/-- The pass for the API server with its directories. -/
def traceApiServer (client : EndpointsClient World) : Action (Traced (Workspace World)) Unit := do
  (makeDirectories (·.management.current) (·.workload.current)).executed .directories
  (apiServerPass client).executed .apiServerPass

/-- Both passes for two clusters, step by step. -/
def tracePasses (clients : ClientFactory World) (management workload : Cluster) :
    Action (Traced (Workspace World)) Unit := do
  let identity ← (Action.ofExcept (ClusterIdentity.ofCluster management)).executed .identity
  let client ← (outside (clients.client management)).executed .client
  let result ← (traceApiServer client).attempt
  traceAfterApiServer clients identity management.loadBalancerType
    (PrivateLink.allowing management.privateLinks workload.spec.subscriptionId) result

/-- Both passes for the clusters of the workspace, step by step. -/
def tracePrivate (clients : ClientFactory World) : Action (Traced (Workspace World)) Unit := do
  let management ← Action.inspect (·.world.management.current)
  let workload ← Action.inspect (·.world.workload.current)
  tracePasses clients management workload

/-- The end of a run for two loaded clusters, step by step. -/
def traceLoaded (settings : ControllerSettings) (store : ClusterStore World)
    (clients : ClientFactory World) (management workload : ClusterScope) :
    Action (Traced World) (NextLook × Outcome) := do
  let (pass, workspace) ← Action.step fun traced =>
    let (pass, passes) := tracePrivate clients ⟨⟨management, workload, traced.world⟩, traced.steps⟩
    ((pass, passes.world), ⟨passes.world.world, passes.steps⟩)
  let first ← ((workspace.management.close store).executed .flushManagement).attempt
  let second ← ((workspace.workload.close store).executed .flushWorkload).attempt
  Action.ofExcept (verdict settings (passOutcome pass [first, second]))

/-- The step that makes sure of the finalizer, if the event is without it. -/
def traceFinalizer (store : ClusterStore World) (event : Cluster) : Action (Traced World) Unit :=
  if event.hasFinalizer Conventions.finalizer then pure ()
  else (store.addFinalizer event.key Conventions.finalizer).executed .finalizer

/-- The steps after that one. -/
def traceAfterAdmission (settings : ControllerSettings) (store : ClusterStore World)
    (clients : ClientFactory World) (key : ObjectKey) :
    Action (Traced World) (NextLook × Outcome) := do
  let workload? ← (ClusterScope.load store key).traced .loadWorkload (·.map (·.loaded))
  match workload? with
  | none => pure (.onChange, .skipped)
  | some workload => do
      let management ← (loadManagement settings store).traced .loadManagement (some ·.loaded)
      traceLoaded settings store clients management workload

/-- A run for a cluster that stays, step by step. -/
def traceInternal (settings : ControllerSettings) (store : ClusterStore World)
    (clients : ClientFactory World) (event : Cluster) :
    Action (Traced World) (NextLook × Outcome) := do
  traceFinalizer store event
  traceAfterAdmission settings store clients event.key

theorem traceLoaded_run (settings : ControllerSettings) (store : ClusterStore World)
    (clients : ClientFactory World) (management workload : ClusterScope) (traced : Traced World) :
    traceLoaded settings store clients management workload traced =
      let passes := tracePrivate clients ⟨⟨management, workload, traced.world⟩, traced.steps⟩
      let first := passes.2.world.management.close store passes.2.world.world
      let second := passes.2.world.workload.close store first.2
      let flushes := [(Step.flushManagement, first.1), (Step.flushWorkload, second.1)]
      (verdict settings (passOutcome passes.1 (flushes.map (·.2))),
        ⟨second.2, passes.2.steps ++
          flushes.map fun flush => ⟨flush.1, flush.2.map fun _ => none⟩⟩) := by
  rw [traceLoaded]
  simp only [Action.bind_run, Action.step_run, Action.attempt_run, Action.executed, Action.traced,
    Action.ofExcept_run, List.append_assoc, List.map_cons, List.map_nil, List.singleton_append]

end Steps

/-! ## The run without the record -/

section Shows

variable (settings : ControllerSettings) (store : ClusterStore World)
variable (clients : ClientFactory World)

theorem traceIngress_shows (identity : ClusterIdentity) (type : LoadBalancerType)
    (links : List PrivateLink) :
    (traceIngress clients identity type links).Shows (·.world)
      (ingressTurn clients identity type links) := by
  cases type with
  | external => exact .ofExcept (.ok ())
  | other name => exact .ofExcept (.ok ())
  | internal =>
    cases links with
    | nil => exact .ofExcept (.ok ())
    | cons link rest =>
        refine .bind (.inspect fun _ => rfl) fun workload =>
          .bind (Action.executed_shows _ _) fun client => ?_
        exact Action.executed_bind_shows _ _ (makeDirectories_ingressPass client identity link)

theorem traceApiServer_shows (client : EndpointsClient World) :
    (traceApiServer client).Shows (·.world) (apiServerPass client) :=
  Action.executed_bind_shows _ _ (makeDirectories_apiServerPass client)

theorem tracePrivate_shows : (tracePrivate clients).Shows (·.world) (reconcilePrivate clients) := by
  rw [reconcilePrivate_eq]
  refine .bind (.inspect fun _ => rfl) fun management =>
    .bind (.inspect fun _ => rfl) fun workload =>
    .bind (Action.executed_shows _ _) fun identity =>
    .bind (Action.executed_shows _ _) fun client =>
    .bind (traceApiServer_shows client).attempt fun result => ?_
  unfold traceAfterApiServer afterApiServer
  split
  · exact .ofExcept _
  · exact (traceIngress_shows clients _ _ _).bind fun _ => .ofExcept _

theorem traceLoaded_shows (management workload : ClusterScope) :
    (traceLoaded settings store clients management workload).Shows (·.world)
      (reconcileLoaded settings store clients management workload) := by
  intro traced
  obtain ⟨passes, worlds⟩ :=
    tracePrivate_shows clients ⟨⟨management, workload, traced.world⟩, traced.steps⟩
  simp only at passes worlds
  rw [Action.Mirrors, reconcileLoaded_run]
  simp only [← passes, ← worlds]
  exact ⟨rfl, rfl⟩

/-- A run that is told step by step comes to what the run comes to, and leaves the world as the run
leaves it. -/
theorem traceInternal_shows (event : Cluster) :
    (traceInternal settings store clients event).Shows (·.world)
      (reconcileInternal settings store clients event) := by
  rw [reconcileInternal_eq]
  refine .bind ?_ fun _ => .bind (Action.traced_shows _ _ _) fun workload? => ?_
  · unfold traceFinalizer ensureFinalizer
    split
    · exact .ofExcept (.ok ())
    · exact Action.executed_shows _ _
  · cases workload? with
    | none => exact .ofExcept (.ok _)
    | some workload =>
        exact .bind (Action.traced_shows _ _ _) fun management =>
          traceLoaded_shows settings store clients management workload

end Shows

end Controller

end ClusterLinks
