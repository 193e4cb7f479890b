import ClusterLinks.Pass
import ClusterLinks.Store.Scope

/-!
# The controller

One run brings a workload cluster and the management cluster in line with each other. A cluster
whose API server is internal gets the finalizer first, then its endpoints and addresses; a
cluster that is being deleted loses its endpoints first and the finalizer last. Whatever a run
has changed in the two clusters by the time it ends is kept, also when it ends in a failure.
-/

namespace ClusterLinks

/-- Whoever finds the right client for the subscription of a cluster. -/
structure ClientFactory (World : Type) where
  client (cluster : Cluster) : Action World (EndpointsClient World)

structure ControllerSettings where
  managementCluster : ObjectKey
  /-- Seconds until a cluster that is up to date is looked at again. -/
  syncPeriod : Nat := 300
  /-- Seconds until a cluster that has to wait is looked at again. -/
  retryInterval : Nat := 60
  deriving DecidableEq

/-- When to look at a cluster again. -/
inductive NextLook where
  | onChange
  | afterSeconds (seconds : Nat)
  deriving DecidableEq

/-- How a run is counted. -/
inductive Outcome where
  | skipped
  | success
  | retry
  | fatal
  deriving DecidableEq

def Outcome.label : Outcome → String
  | .skipped => "skipped"
  | .success => "success"
  | .retry => "retry"
  | .fatal => "fatal"

namespace Controller

variable {World : Type}

/-- The two clusters that a run works on. -/
structure Workspace (World : Type) where
  management : ClusterScope
  workload : ClusterScope
  world : World

/-- An action on the world outside the workspace. -/
def outside {α : Type} (action : Action World α) : Action (Workspace World) α :=
  action.within (·.world) fun world workspace => { workspace with world }

/-- Connects the management cluster to the links of the workload cluster. -/
def apiServerPass (client : EndpointsClient World) : Action (Workspace World) Unit :=
  fun workspace =>
    let (result, management, workload, world) :=
      (Pass.reconcile (some client)).run workspace.management.current workspace.workload.current
        workspace.world
    (result,
      { management := { workspace.management with current := management }
        workload := { workspace.workload with current := workload }
        world })

/-- Connects the workload cluster to a link of the management cluster. -/
def ingressPass (client : EndpointsClient World) (management : ClusterIdentity)
    (link : PrivateLink) : Action (Workspace World) Unit :=
  fun workspace =>
    let pass : Pass World Unit := do
      let host ← Action.inspect (·.host.identity)
      Pass.reconcileIngress (some client) (PrivateEndpoint.forIngress host management link)
    let (result, workload, world) := pass.runAlone workspace.workload.current workspace.world
    (result, { workspace with workload.current := workload, world })

/-- Both passes. The second one is made even if the first one has to wait, and then a failure of
the second one counts. -/
def reconcilePrivate (clients : ClientFactory World) : Action (Workspace World) Unit := do
  let management ← Action.inspect (·.management.current)
  let workload ← Action.inspect (·.workload.current)
  let identity ← Action.ofExcept (ClusterIdentity.ofCluster management)
  let links := PrivateLink.allowing management.privateLinks workload.spec.subscriptionId
  let client ← outside (clients.client management)
  let result ← (apiServerPass client).attempt
  match result with
  | .error error => if !error.isRetryable then Action.fail error
  | .ok _ => pure ()
  match management.loadBalancerType, links with
  | .internal, link :: _ => do
      let workload ← Action.inspect (·.workload.current)
      let client ← outside (clients.client workload)
      ingressPass client identity link
  | _, _ => pure ()
  Action.ofExcept result

/-- The management cluster, which has to exist. -/
def loadManagement (settings : ControllerSettings) (store : ClusterStore World) :
    Action World ClusterScope := do
  let scope? ← ClusterScope.load store settings.managementCluster
  Action.ofOption
    (.invalidConfig
      ("management cluster " ++ settings.managementCluster.toText ++ " not found"))
    scope?

/-- Runs the passes on two loaded clusters and keeps what they changed. -/
def reconcileLoaded (settings : ControllerSettings) (store : ClusterStore World)
    (clients : ClientFactory World) (management workload : ClusterScope) :
    Action World (NextLook × Outcome) := do
  let (pass, workspace) ← Action.step fun world =>
    let (pass, workspace) := reconcilePrivate clients ⟨management, workload, world⟩
    ((pass, workspace), workspace.world)
  let first ← (workspace.management.close store).attempt
  let second ← (workspace.workload.close store).attempt
  match passOutcome pass [first, second] with
  | .ok _ => pure (.afterSeconds settings.syncPeriod, .success)
  | .error error =>
      if error.isRetryable then pure (.afterSeconds settings.retryInterval, .retry)
      else Action.fail error

/-- A run for a cluster that stays. -/
def reconcileInternal (settings : ControllerSettings) (store : ClusterStore World)
    (clients : ClientFactory World) (cluster : Cluster) : Action World (NextLook × Outcome) := do
  if !cluster.hasFinalizer Conventions.finalizer then
    store.addFinalizer cluster.key Conventions.finalizer
  let workload? ← ClusterScope.load store cluster.key
  match workload? with
  | none => pure (.onChange, .skipped)
  | some workload => do
      let management ← loadManagement settings store
      reconcileLoaded settings store clients management workload

/-- Removes the endpoints of a cluster from the management cluster. -/
def removeEndpoints (management : ClusterScope) (cluster : Cluster) :
    Except Error Unit × ClusterScope :=
  let (result, changed, _, _) := (Pass.delete : Pass Unit Unit).run management.current cluster ()
  (result, { management with current := changed })

/-- A run for a cluster that is being deleted. -/
def handleDeletion (settings : ControllerSettings) (store : ClusterStore World)
    (cluster : Cluster) : Action World (NextLook × Outcome) := do
  if !cluster.hasFinalizer Conventions.finalizer then pure (.onChange, .skipped)
  else do
    let management ← loadManagement settings store
    let (pass, management) := removeEndpoints management cluster
    let flush ← (management.close store).attempt
    Action.ofExcept (passOutcome pass [flush])
    store.removeFinalizer cluster.key Conventions.finalizer
    pure (.onChange, .success)

/-- One run for a cluster as it was when something happened to it. -/
def reconcile (settings : ControllerSettings) (store : ClusterStore World)
    (clients : ClientFactory World) (cluster : Cluster) : Action World (NextLook × Outcome) :=
  if cluster.key = settings.managementCluster then pure (.onChange, .skipped)
  else if cluster.isDeleting then handleDeletion settings store cluster
  else
    match cluster.loadBalancerType with
    | .external => pure (.onChange, .skipped)
    | .internal => reconcileInternal settings store clients cluster
    | .other name => Action.fail (.unknownLoadBalancerType cluster.key.name name)

/-- A run that fails is counted as fatal. -/
def outcomeOf : Except Error (NextLook × Outcome) → Outcome
  | .ok (_, outcome) => outcome
  | .error _ => .fatal

/-- When to look again at a cluster whose run has failed. -/
def afterFailure (settings : ControllerSettings) : NextLook :=
  .afterSeconds settings.syncPeriod

end Controller

end ClusterLinks
