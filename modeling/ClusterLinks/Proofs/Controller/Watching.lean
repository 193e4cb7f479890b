import ClusterLinks.Proofs.Controller.Runs
import ClusterLinks.Proofs.Store.Records

/-!
# Watched runs

A run knows the world by the calls to its store and by its clients alone. If these show a part of
the world as it would be without the rest, then so does the run: it comes to the same result and
leaves that part in the same state. This is shown for each step of a run in turn. Putting calls
and look-ups on record is one such case, so a run on record is the run off record.
-/

namespace ClusterLinks

variable {Outer World α β : Type} {view : Outer → World}

/-! ## Steps -/

namespace Action

/-- The action does to a part of the world what the model does, wherever it starts. -/
def Shows (action : Action Outer α) (view : Outer → World) (model : Action World α) : Prop :=
  ∀ outer, action.Mirrors view model outer

namespace Shows

variable {action : Action Outer α} {model : Action World α}
variable {next : α → Action Outer β} {next' : α → Action World β}

theorem bind (first : action.Shows view model)
    (rest : ∀ value, (next value).Shows view (next' value)) :
    (action >>= next).Shows view (model >>= next') := by
  intro outer
  have same := first outer
  simp only [Mirrors, bind_run] at same ⊢
  cases answer : action outer with
  | mk result after =>
    cases answer' : model (view outer) with
    | mk result' after' =>
      rw [answer, answer'] at same
      obtain ⟨rfl, rfl⟩ := same
      cases result with
      | error error => exact ⟨rfl, rfl⟩
      | ok value => exact rest value after

theorem ofExcept (result : Except Error α) :
    (Action.ofExcept result : Action Outer α).Shows view (Action.ofExcept result) :=
  fun _ => ⟨rfl, rfl⟩

theorem inspect {read : Outer → α} {read' : World → α}
    (same : ∀ outer, read outer = read' (view outer)) :
    (Action.inspect read).Shows view (Action.inspect read') :=
  fun outer => ⟨congrArg Except.ok (same outer), rfl⟩

theorem attempt (first : action.Shows view model) :
    action.attempt.Shows view model.attempt :=
  fun outer => ⟨congrArg Except.ok (first outer).1, (first outer).2⟩

end Shows

end Action

/-- The look-ups of a client show those of another one. -/
def EndpointsClient.Shows (client : EndpointsClient Outer) (view : Outer → World)
    (model : EndpointsClient World) : Prop :=
  ∀ group name, (client.lookup group name).Shows view (model.lookup group name)

/-- A factory finds clients that show those of another one, or it fails in the same way. -/
structure ClientFactory.Shows (clients : ClientFactory Outer) (view : Outer → World)
    (model : ClientFactory World) : Prop where
  world : ∀ cluster outer,
    view (clients.client cluster outer).2 = (model.client cluster (view outer)).2
  client : ∀ cluster outer,
    match (clients.client cluster outer).1, (model.client cluster (view outer)).1 with
    | .ok client, .ok client' => client.Shows view client'
    | .error error, .error error' => error = error'
    | _, _ => False

/-- The calls of a store show those of another one. -/
structure ClusterStore.Shows (store : ClusterStore Outer) (view : Outer → World)
    (model : ClusterStore World) : Prop where
  get : ∀ key, (store.get key).Shows view (model.get key)
  persist : ∀ before after, (store.persist before after).Shows view (model.persist before after)
  addFinalizer : ∀ key finalizer,
    (store.addFinalizer key finalizer).Shows view (model.addFinalizer key finalizer)
  removeFinalizer : ∀ key finalizer,
    (store.removeFinalizer key finalizer).Shows view (model.removeFinalizer key finalizer)

/-! ## Passes -/

namespace Pass

variable {client : EndpointsClient Outer} {model : EndpointsClient World}

/-- The state of a pass with a part of the world. -/
def seen (view : Outer → World) (state : PassState Outer) : PassState World :=
  ⟨state.host, state.owner, view state.world⟩

theorem resolve_shows (looksUp : client.Shows view model) (name : String) :
    (resolve (some client) name).Shows (seen view) (resolve (some model) name) := by
  intro state
  have same : (state.host.resolve (some client) name).Shows view
      (state.host.resolve (some model) name) := by
    apply (looksUp state.host.identity.resourceGroup name).bind
    intro resource?
    cases resource? with
    | none => exact .ofExcept (.error _)
    | some resource => exact .ofExcept _
  obtain ⟨results, worlds⟩ := same state.world
  exact ⟨results, congrArg (PassState.mk state.host state.owner) worlds⟩

theorem connect_shows (looksUp : client.Shows view model) (direction : Direction)
    (endpoint : PrivateEndpoint) :
    (connect (some client) direction endpoint).Shows (seen view)
      (connect (some model) direction endpoint) := by
  refine .bind ?_ fun _ => .bind ?_ fun address => ?_
  · exact fun _ => ⟨rfl, rfl⟩
  · exact resolve_shows looksUp endpoint.name
  · exact fun _ => ⟨rfl, rfl⟩

theorem connectAll_shows (looksUp : client.Shows view model) (direction : Direction)
    (endpoints : List PrivateEndpoint) :
    (connectAll (some client) direction endpoints).Shows (seen view)
      (connectAll (some model) direction endpoints) := by
  induction endpoints with
  | nil => exact fun _ => ⟨rfl, rfl⟩
  | cons endpoint rest ih => exact (connect_shows looksUp direction endpoint).bind fun _ => ih

theorem reconcile_shows (looksUp : client.Shows view model) :
    (reconcile (some client)).Shows (seen view) (reconcile (some model)) := by
  refine .bind ?_ fun host => .bind ?_ fun owner => ?_
  · exact .inspect fun _ => rfl
  · exact .inspect fun _ => rfl
  · cases obstacle? host owner with
    | some error => exact fun _ => ⟨rfl, rfl⟩
    | none => exact (connectAll_shows looksUp _ _).bind fun _ _ => ⟨rfl, rfl⟩

theorem ingress_shows (looksUp : client.Shows view model) (management : ClusterIdentity)
    (link : PrivateLink) :
    (ingress (some client) management link).Shows (seen view)
      (ingress (some model) management link) := by
  refine .bind ?_ fun host => ?_
  · exact .inspect fun _ => rfl
  · exact connect_shows looksUp _ _

variable {pass : Pass Outer Unit} {pass' : Pass World Unit}

theorem run_shows (same : pass.Shows (seen view) pass') (host owner : Cluster) (outer : Outer) :
    let run' := run pass' host owner (view outer)
    (run pass host owner outer).1 = run'.1 ∧ (run pass host owner outer).2.1 = run'.2.1 ∧
      (run pass host owner outer).2.2.1 = run'.2.2.1 ∧
      view (run pass host owner outer).2.2.2 = run'.2.2.2 := by
  cases hosts : EndpointDirectory.ofCluster host with
  | error error => simp [run, hosts]
  | ok endpoints =>
    cases owns : LinkDirectory.ofCluster owner with
    | error error => simp [run, hosts, owns]
    | ok links =>
        obtain ⟨results, states⟩ := same ⟨endpoints, links, outer⟩
        simp only [seen] at results states
        simp only [run_of_directories hosts owns, ← results, ← states, and_self]

theorem runAlone_shows (same : pass.Shows (seen view) pass') (cluster : Cluster) (outer : Outer) :
    let run' := runAlone pass' cluster (view outer)
    (runAlone pass cluster outer).1 = run'.1 ∧ (runAlone pass cluster outer).2.1 = run'.2.1 ∧
      view (runAlone pass cluster outer).2.2 = run'.2.2 := by
  cases hosts : EndpointDirectory.ofCluster cluster with
  | error error => simp [runAlone, hosts]
  | ok endpoints =>
    cases owns : LinkDirectory.ofCluster cluster with
    | error error => simp [runAlone, hosts, owns]
    | ok links =>
        obtain ⟨results, states⟩ := same ⟨endpoints, links, outer⟩
        simp only [seen] at results states
        simp only [runAlone, hosts, owns, ← results, ← states, and_self]

end Pass

namespace Controller

variable {client : EndpointsClient Outer} {model : EndpointsClient World}
variable {clients : ClientFactory Outer} {clients' : ClientFactory World}
variable {store : ClusterStore Outer} {store' : ClusterStore World}

/-- The workspace of a run with a part of the world. -/
def Workspace.seen (view : Outer → World) (workspace : Workspace Outer) : Workspace World :=
  ⟨workspace.management, workspace.workload, view workspace.world⟩

theorem apiServerPass_shows (looksUp : client.Shows view model) :
    (apiServerPass client).Shows (Workspace.seen view) (apiServerPass model) := by
  intro workspace
  obtain ⟨results, hosts, owners, worlds⟩ := Pass.run_shows (Pass.reconcile_shows looksUp)
    workspace.management.current workspace.workload.current workspace.world
  simp only [Action.Mirrors, apiServerPass, Workspace.seen, results, hosts, owners, worlds,
    and_self]

theorem ingressPass_shows (looksUp : client.Shows view model) (management : ClusterIdentity)
    (link : PrivateLink) :
    (ingressPass client management link).Shows (Workspace.seen view)
      (ingressPass model management link) := by
  intro workspace
  obtain ⟨results, clusters, worlds⟩ :=
    Pass.runAlone_shows (Pass.ingress_shows looksUp management link) workspace.workload.current
      workspace.world
  refine ⟨results, ?_⟩
  exact congrArg₂ (fun cluster world =>
    Workspace.mk workspace.management { workspace.workload with current := cluster } world)
    clusters worlds

/-- Whoever asks for a client gets one that shows the other one. -/
theorem bind_client_shows (finds : clients.Shows view clients') (cluster : Cluster)
    {next : EndpointsClient Outer → Action (Workspace Outer) α}
    {next' : EndpointsClient World → Action (Workspace World) α}
    (rest : ∀ client model, client.Shows view model →
      (next client).Shows (Workspace.seen view) (next' model)) :
    (outside (clients.client cluster) >>= next).Shows (Workspace.seen view)
      (outside (clients'.client cluster) >>= next') := by
  intro workspace
  have worlds := finds.world cluster workspace.world
  have found := finds.client cluster workspace.world
  simp only [Action.Mirrors, Action.bind_run, outside, Action.within_run, Workspace.seen]
  cases answer : clients.client cluster workspace.world with
  | mk result after =>
    cases answer' : clients'.client cluster (view workspace.world) with
    | mk result' after' =>
      rw [answer, answer'] at worlds found
      simp only at worlds found
      subst worlds
      cases result with
      | error error =>
        cases result' with
        | error error' => exact ⟨congrArg Except.error found, rfl⟩
        | ok model => exact absurd found id
      | ok client =>
        cases result' with
        | error error' => exact absurd found id
        | ok model => exact rest client model found _

theorem ingressTurn_shows (finds : clients.Shows view clients') (identity : ClusterIdentity)
    (type : LoadBalancerType) (links : List PrivateLink) :
    (ingressTurn clients identity type links).Shows (Workspace.seen view)
      (ingressTurn clients' identity type links) := by
  unfold ingressTurn
  split
  · refine .bind ?_ fun workload => bind_client_shows finds workload fun client model looksUp => ?_
    · exact .inspect fun _ => rfl
    · exact ingressPass_shows looksUp identity _
  · exact fun _ => ⟨rfl, rfl⟩

theorem reconcilePrivate_shows (finds : clients.Shows view clients') :
    (reconcilePrivate clients).Shows (Workspace.seen view) (reconcilePrivate clients') := by
  rw [reconcilePrivate_eq, reconcilePrivate_eq]
  refine .bind ?_ fun management => .bind ?_ fun workload => .bind ?_ fun identity =>
    bind_client_shows finds management fun client model looksUp => .bind ?_ fun result => ?_
  · exact .inspect fun _ => rfl
  · exact .inspect fun _ => rfl
  · exact .ofExcept _
  · exact (apiServerPass_shows looksUp).attempt
  · unfold afterApiServer
    split
    · exact .ofExcept _
    · exact (ingressTurn_shows finds _ _ _).bind fun _ => .ofExcept _

/-! ## Runs -/

variable (calls : store.Shows view store')

include calls

theorem load_shows (key : ObjectKey) :
    (ClusterScope.load store key).Shows view (ClusterScope.load store' key) :=
  (calls.get key).bind fun _ _ => ⟨rfl, rfl⟩

theorem close_shows (scope : ClusterScope) :
    (scope.close store).Shows view (scope.close store') := by
  unfold ClusterScope.close
  split
  · exact calls.persist _ _
  · exact fun _ => ⟨rfl, rfl⟩

theorem loadManagement_shows (settings : ControllerSettings) :
    (loadManagement settings store).Shows view (loadManagement settings store') := by
  refine (load_shows calls _).bind fun scope? => ?_
  cases scope? with
  | none => exact fun _ => ⟨rfl, rfl⟩
  | some scope => exact fun _ => ⟨rfl, rfl⟩

theorem reconcileLoaded_shows (finds : clients.Shows view clients')
    (settings : ControllerSettings) (management workload : ClusterScope) :
    (reconcileLoaded settings store clients management workload).Shows view
      (reconcileLoaded settings store' clients' management workload) := by
  intro outer
  have passes := reconcilePrivate_shows finds ⟨management, workload, outer⟩
  rw [Action.Mirrors, reconcileLoaded_run, reconcileLoaded_run]
  cases here : reconcilePrivate clients ⟨management, workload, outer⟩ with
  | mk pass workspace =>
    cases there : reconcilePrivate clients' ⟨management, workload, view outer⟩ with
    | mk pass' workspace' =>
      simp only [Action.Mirrors, Workspace.seen, here, there] at passes
      obtain ⟨rfl, rfl⟩ := passes
      obtain ⟨first, between⟩ := close_shows calls workspace.management workspace.world
      obtain ⟨second, last⟩ := close_shows calls workspace.workload
        (workspace.management.close store workspace.world).2
      simp only [first, second, last, between, and_self]

theorem reconcileInternal_shows (finds : clients.Shows view clients')
    (settings : ControllerSettings) (cluster : Cluster) :
    (reconcileInternal settings store clients cluster).Shows view
      (reconcileInternal settings store' clients' cluster) := by
  rw [reconcileInternal_eq, reconcileInternal_eq]
  refine .bind ?_ fun _ => (load_shows calls _).bind fun workload? => ?_
  · unfold ensureFinalizer
    split
    · exact fun _ => ⟨rfl, rfl⟩
    · exact calls.addFinalizer _ _
  · cases workload? with
    | none => exact fun _ => ⟨rfl, rfl⟩
    | some workload =>
        exact (loadManagement_shows calls settings).bind fun management =>
          reconcileLoaded_shows calls finds settings management workload

theorem handleDeletion_shows (settings : ControllerSettings) (cluster : Cluster) :
    (handleDeletion settings store cluster).Shows view
      (handleDeletion settings store' cluster) := by
  unfold handleDeletion
  split
  · exact fun _ => ⟨rfl, rfl⟩
  · refine (loadManagement_shows calls settings).bind fun management =>
      (close_shows calls _).attempt.bind fun flush => .bind ?_ fun _ => .bind ?_ fun _ => ?_
    · exact .ofExcept _
    · exact calls.removeFinalizer _ _
    · exact fun _ => ⟨rfl, rfl⟩

/-- A run comes to the same result and leaves the part of the world that it is shown in the same
state as a run in that part of the world alone. -/
theorem reconcile_shows (finds : clients.Shows view clients') (settings : ControllerSettings)
    (event : Cluster) :
    (reconcile settings store clients event).Shows view
      (reconcile settings store' clients' event) := by
  unfold reconcile
  split
  · exact fun _ => ⟨rfl, rfl⟩
  · split
    · exact handleDeletion_shows calls settings event
    · cases event.loadBalancerType with
      | external => exact fun _ => ⟨rfl, rfl⟩
      | internal => exact reconcileInternal_shows calls finds settings event
      | other name => exact fun _ => ⟨rfl, rfl⟩

end Controller

/-! ## Runs on record -/

theorem ClusterStore.recorded_shows (view : World → Shelf) (store : ClusterStore World) :
    (store.recorded view).Shows (·.world) store where
  get _ _ := ⟨rfl, rfl⟩
  persist _ _ _ := ⟨rfl, rfl⟩
  addFinalizer _ _ _ := ⟨rfl, rfl⟩
  removeFinalizer _ _ _ := ⟨rfl, rfl⟩

theorem ClientFactory.recorded_shows (clients : ClientFactory World) :
    clients.recorded.Shows (·.world) clients where
  world cluster recorded := by rw [recorded_client_run]
  client cluster recorded := by
    rw [recorded_client_run]
    cases (clients.client cluster recorded.world).1 with
    | error error => rfl
    | ok client => exact fun _ _ _ => ⟨rfl, rfl⟩

/-- A run on record comes to what the run comes to, and leaves the world as the run leaves it. -/
theorem Controller.reconcile_recorded (view : World → Shelf) (settings : ControllerSettings)
    (store : ClusterStore World) (clients : ClientFactory World) (event : Cluster)
    (recorded : Recorded World) :
    let run := reconcile settings store clients event recorded.world
    let watched := reconcile settings (store.recorded view) clients.recorded event recorded
    watched.1 = run.1 ∧ watched.2.world = run.2 :=
  reconcile_shows (store.recorded_shows view) clients.recorded_shows settings event recorded

end ClusterLinks
