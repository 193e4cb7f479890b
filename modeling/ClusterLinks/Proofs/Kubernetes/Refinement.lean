import ClusterLinks.Proofs.Controller.Contents
import ClusterLinks.Proofs.Controller.Watching
import ClusterLinks.Proofs.Kubernetes.Corresponding

/-!
# Runs on a server and on a shelf

A run with a store on an API server comes to the same as a run with a shelf, and afterwards the
documents on the server have the contents of the clusters on the shelf. So what is proved of runs
with a shelf is true of the operator, as long as nobody else writes and no request is lost. After
the run for a cluster that is being deleted, the server may have let this cluster go.
-/

namespace ClusterLinks

variable {Server Rest World Outer Inner : Type}

/-! ## Clients in a part of the world -/

/-- A client on a part of the world. -/
def EndpointsClient.within (part : Outer → World) (put : World → Outer → Outer)
    (client : EndpointsClient World) : EndpointsClient Outer where
  lookup group name := (client.lookup group name).within part put

/-- Clients on a part of the world. -/
def ClientFactory.within (part : Outer → World) (put : World → Outer → Outer)
    (clients : ClientFactory World) : ClientFactory Outer where
  client cluster := do
    let client ← (clients.client cluster).within part put
    pure (client.within part put)

namespace ClientFactory

variable {part : Outer → World} {put : World → Outer → Outer} {clients : ClientFactory World}

theorem within_client_run (clients : ClientFactory World) (cluster : Cluster) (outer : Outer) :
    (clients.within part put).client cluster outer =
      ((clients.client cluster (part outer)).1.map (EndpointsClient.within part put),
        put (clients.client cluster (part outer)).2 outer) := by
  simp only [ClientFactory.within, Action.bind_run, Action.within_run]
  cases (clients.client cluster (part outer)).1 <;> rfl

/-- Clients on a part of the world show what they are there. -/
theorem within_shows (part_put : ∀ world outer, part (put world outer) = world)
    (clients : ClientFactory World) : (clients.within part put).Shows part clients where
  world cluster outer := by rw [within_client_run, part_put]
  client cluster outer := by
    rw [within_client_run]
    cases (clients.client cluster (part outer)).1 with
    | error error => rfl
    | ok client => exact fun group name outer => ⟨rfl, part_put _ _⟩

/-- They leave everything else alone. -/
theorem within_spares {view : Outer → Inner}
    (view_put : ∀ world outer, view (put world outer) = view outer)
    (clients : ClientFactory World) : (clients.within part put).Spares view where
  call cluster outer := by rw [within_client_run, view_put]
  client cluster outer client found := by
    rw [within_client_run] at found
    cases answer : (clients.client cluster (part outer)).1 with
    | error error =>
        rw [answer] at found
        cases found
    | ok original =>
        rw [answer] at found
        cases found
        exact fun group name outer => view_put _ _

end ClientFactory

/-- Clients beside a server. -/
def Served.clients (clients : ClientFactory Rest) : ClientFactory (Served Server Rest) :=
  clients.within (·.rest) fun rest served => { served with rest }

theorem Served.clients_shows (clients : ClientFactory Rest) :
    (Served.clients clients : ClientFactory (Served Server Rest)).Shows Served.rest clients :=
  ClientFactory.within_shows (fun _ _ => rfl) clients

theorem Served.clients_spares (clients : ClientFactory Rest) :
    (Served.clients clients : ClientFactory (Served Server Rest)).Spares
      fun served => (served.server, served.answers) := by
  apply ClientFactory.within_spares
  exact fun _ _ => rfl

/-- Clients beside a shelf. -/
def Shelved.clients (clients : ClientFactory Rest) : ClientFactory (Shelved Rest) :=
  clients.within (·.rest) fun rest shelved => { shelved with rest }

theorem Shelved.clients_shows (clients : ClientFactory Rest) :
    (Shelved.clients clients).Shows Shelved.rest clients :=
  ClientFactory.within_shows (fun _ _ => rfl) clients

theorem Shelved.clients_spares (clients : ClientFactory Rest) :
    (Shelved.clients clients).Spares (·.shelf) := by
  apply ClientFactory.within_spares
  exact fun _ _ => rfl

/-- What is the same on the server and on the shelf still corresponds. -/
theorem Corresponds.of_same {objects : Server → String → Option Json}
    {held held' : (String → Option Json) → Prop} {served served' : Served Server Rest}
    {shelved shelved' : Shelved Rest} (corresponds : Corresponds objects held served shelved)
    (same : (served'.server, served'.answers) = (served.server, served.answers))
    (same' : shelved'.shelf = shelved.shelf) (rest : served'.rest = shelved'.rest)
    (holds : held' (objects served.server)) : Corresponds objects held' served' shelved' := by
  obtain ⟨sameServer, sameAnswers⟩ := Prod.mk.inj same
  refine ⟨?_, rest, ?_, sameServer ▸ holds⟩
  · rw [same', sameServer]
    exact corresponds.kept
  · rw [Served.IsUntroubled, sameAnswers]
    exact corresponds.untroubled

namespace Controller

open Served (connection)

variable {handle : ApiRequest → Server → Http.Reply × Server}
variable {objects : Server → String → Option Json} {held : (String → Option Json) → Prop}
variable {settings : ControllerSettings} {clients : ClientFactory Rest}
variable {management management' workload workload' : ClusterScope}

/-! ## Passes on both sides -/

/-- Both clusters of a run have been loaded on both sides. -/
structure AreLoaded (management management' workload workload' : ClusterScope)
    (documents : String → Option Json) : Prop where
  apart : management.loaded.key ≠ workload.loaded.key
  management : AreTwins documents management management'
  workload : AreTwins documents workload workload'

/-- The passes come to the same on both sides, and leave twins. -/
theorem passes_agree (content : clients.GoesByContent) {served : Served Server Rest}
    {shelved : Shelved Rest}
    (corresponds : Corresponds objects (AreLoaded management management' workload workload')
      served shelved) :
    let run := reconcilePrivate (Served.clients clients) ⟨management, workload, served⟩
    let run' := reconcilePrivate (Shelved.clients clients) ⟨management', workload', shelved⟩
    run.1 = run'.1 ∧
      Corresponds objects
        (AreLoaded run.2.management run'.2.management run.2.workload run'.2.workload)
        run.2.world run'.2.world := by
  intro run run'
  obtain ⟨apart, managements, workloads⟩ := corresponds.held
  obtain ⟨results, seen⟩ :=
    reconcilePrivate_shows (Served.clients_shows clients) ⟨management, workload, served⟩
  obtain ⟨results', seen'⟩ :=
    reconcilePrivate_shows (Shelved.clients_shows clients) ⟨management', workload', shelved⟩
  -- Beside the rest of the world the passes see clusters with the same contents on both sides.
  obtain ⟨sameResult, sameContent⟩ := Agree.iff_results.mp <|
    reconcilePrivate_alike content
      (Workspace.seen Served.rest ⟨management, workload, served⟩)
      (Workspace.seen Shelved.rest ⟨management', workload', shelved⟩)
      ⟨managements.current, workloads.current, corresponds.rest⟩
  rw [← results, ← results'] at sameResult
  rw [← seen, ← seen'] at sameContent
  have stays :=
    stays_reconcilePrivate (Served.clients_spares clients) ⟨management, workload, served⟩
  have stays' :=
    stays_reconcilePrivate (Shelved.clients_spares clients) ⟨management', workload', shelved⟩
  have tidy := staysTidy_reconcilePrivate (Served.clients clients)
    ⟨management, workload, served⟩ ⟨managements.tidy, workloads.tidy⟩
  refine ⟨sameResult, corresponds.of_same stays.world stays'.world sameContent.world ?_⟩
  refine ⟨?_, ?_, ?_⟩
  · rw [stays.managementLoaded, stays.workloadLoaded]
    exact apart
  · exact managements.work stays.managementLoaded stays'.managementLoaded stays.managementCore
      tidy.management sameContent.management
  · exact workloads.work stays.workloadLoaded stays'.workloadLoaded stays.workloadCore
      tidy.workload sameContent.workload

/-- Without the endpoints the management clusters are still twins. -/
theorem twins_withoutEndpoints {documents : String → Option Json} (event : Cluster)
    (twins : AreTwins documents management management') :
    (withoutEndpoints management.current event).1 =
        (withoutEndpoints management'.current event).1 ∧
      AreTwins documents
        { management with current := (withoutEndpoints management.current event).2 }
        { management' with current := (withoutEndpoints management'.current event).2 } := by
  obtain ⟨result, changed⟩ := Pass.run_delete_content management.current event ()
  obtain ⟨result', changed'⟩ := Pass.run_delete_content management'.current event ()
  rw [twins.current] at result changed
  refine ⟨result.symm.trans result', twins.work rfl rfl (core_withoutEndpoints _ event) ?_ ?_⟩
  · exact Pass.isTidy_run_delete twins.tidy ()
  · exact changed.symm.trans changed'

/-! ## Runs for a cluster that stays -/

/-- Where two worlds belong together before, the two actions come to the same, and the worlds belong
together after. -/
def EndAlike (before after : Served Server Rest → Shelved Rest → Prop) {α : Type}
    (action : Action (Served Server Rest) α) (action' : Action (Shelved Rest) α) : Prop :=
  action.Agrees action' before after fun value value' served shelved =>
    value = value' ∧ after served shelved

namespace EndAlike

variable {α : Type} {before after after' : Served Server Rest → Shelved Rest → Prop}
variable {action : Action (Served Server Rest) α} {action' : Action (Shelved Rest) α}

theorem pure (keeps : ∀ served shelved, before served shelved → after served shelved) (value : α) :
    EndAlike before after (Pure.pure value) (Pure.pure value) :=
  Action.Agrees.pure fun served shelved belong => ⟨rfl, keeps served shelved belong⟩

theorem fail (keeps : ∀ served shelved, before served shelved → after served shelved)
    (error : Error) :
    EndAlike before after (Action.fail error : Action _ α) (Action.fail error) :=
  Action.Agrees.fail keeps

theorem imp (alike : EndAlike before after action action')
    (follows : ∀ served shelved, after served shelved → after' served shelved) :
    EndAlike before after' action action' := by
  intro served shelved belong
  have ends := Agree.iff_results.mp (alike served shelved belong)
  exact Agree.iff_results.mpr ⟨ends.1, follows _ _ ends.2⟩

end EndAlike

/-- What a run for an event leaves. Only the cluster of a deletion may have gone from the server. -/
structure LeftAlike (objects : Server → String → Option Json) (event : Cluster)
    (served : Served Server Rest) (shelved : Shelved Rest) : Prop
    extends CorrespondsUnlessReleased objects event.key served shelved where
  whole : event.isDeleting = false → shelved.shelf.IsKeptIn (objects served.server)

theorem LeftAlike.of_corresponds {event : Cluster} {served : Served Server Rest}
    {shelved : Shelved Rest} (corresponds : Corresponds objects held served shelved) :
    LeftAlike objects event served shelved :=
  ⟨corresponds.unlessReleased event.key, fun _ => corresponds.kept⟩

section Runs

variable (serves : ServesObjects handle objects)

include serves

theorem reconcileLoaded_agrees (content : clients.GoesByContent) :
    EndAlike (Corresponds objects (AreLoaded management management' workload workload'))
      (Corresponds objects fun _ => True)
      (reconcileLoaded settings (.kubernetes (connection handle)) (Served.clients clients)
        management workload)
      (reconcileLoaded settings Shelved.store (Shelved.clients clients) management' workload') := by
  intro served shelved corresponds
  have passes := passes_agree content corresponds
  apply Agree.iff_results.mpr
  rw [reconcileLoaded_run, reconcileLoaded_run]
  generalize reconcilePrivate (Served.clients clients) ⟨management, workload, served⟩ = run at *
  generalize reconcilePrivate (Shelved.clients clients) ⟨management', workload', shelved⟩ = run'
    at *
  obtain ⟨sameResult, corresponds⟩ := passes
  have loaded := corresponds.held
  -- The first flush leaves the other cluster as it was loaded, so the second one is accepted, too.
  have stable : ∀ documents document?,
      AreTwins documents run.2.workload run'.2.workload →
        AreTwins (Function.update documents
          (ObjectKind.cluster.path run.2.management.loaded.key) document?)
          run.2.workload run'.2.workload :=
    fun _ document? twins => twins.update loaded.management.valid loaded.apart.symm document?
  obtain ⟨_, _, first, first', between⟩ :=
    (Served.close_agrees serves stable _ _
      (corresponds.imp fun loaded => ⟨loaded.management, loaded.workload⟩)).exists_of_ok
  have twins : Corresponds objects
      (fun documents => AreTwins documents run.2.workload run'.2.workload ∧ True) _ _ :=
    between.imp fun twins => ⟨twins, trivial⟩
  obtain ⟨_, _, second, second', last⟩ :=
    (Served.close_agrees serves (fun _ _ => id) _ _ twins).exists_of_ok
  simp only [first, first', second, second']
  rw [passOutcome_of_flushed _ (by simp), passOutcome_of_flushed _ (by simp)]
  exact ⟨congrArg (verdict settings) sameResult, last⟩

/-- The management cluster is loaded on both sides, or missing on both. -/
theorem loadManagement_agrees (valid : settings.managementCluster.IsValid)
    {failing : Served Server Rest → Shelved Rest → Prop}
    (missing : ∀ served shelved, Corresponds objects held served shelved →
      failing served shelved) :
    (loadManagement settings (.kubernetes (connection handle))).Agrees
      (loadManagement settings Shelved.store) (Corresponds objects held) failing
      fun scope scope' =>
        Corresponds objects fun documents => held documents ∧
          scope.loaded.key = settings.managementCluster ∧ AreTwins documents scope scope' := by
  refine (Served.load_agrees serves valid).bind fun scope? scope'? => ?_
  intro served shelved corresponds
  obtain ⟨holds, related⟩ := corresponds.held
  cases related with
  | none => exact .error (missing _ _ (corresponds.imp And.left))
  | some twins => exact .ok (corresponds.imp fun _ => ⟨holds, twins⟩)

/-- What a run does when it has loaded the workload cluster. -/
theorem withManagement_agrees (content : clients.GoesByContent)
    (valid : settings.managementCluster.IsValid)
    (apart : workload.loaded.key ≠ settings.managementCluster) :
    EndAlike (Corresponds objects fun documents => AreTwins documents workload workload')
      (Corresponds objects fun _ => True)
      (loadManagement settings (.kubernetes (connection handle)) >>= fun management =>
        reconcileLoaded settings (.kubernetes (connection handle)) (Served.clients clients)
          management workload)
      (loadManagement settings Shelved.store >>= fun management' =>
        reconcileLoaded settings Shelved.store (Shelved.clients clients) management'
          workload') := by
  refine (loadManagement_agrees serves valid fun _ _ => Corresponds.forget).bind
    fun management management' => ?_
  intro served shelved corresponds
  obtain ⟨workloads, managed, managements⟩ := corresponds.held
  exact reconcileLoaded_agrees serves content served shelved
    (corresponds.imp fun _ => ⟨managed ▸ apart.symm, managements, workloads⟩)

theorem afterAdmission_agrees (content : clients.GoesByContent) {key : ObjectKey}
    (valid : settings.managementCluster.IsValid) (valid' : key.IsValid)
    (apart : key ≠ settings.managementCluster) :
    EndAlike (Corresponds objects fun _ => True) (Corresponds objects fun _ => True)
      (afterAdmission settings (.kubernetes (connection handle)) (Served.clients clients) key)
      (afterAdmission settings Shelved.store (Shelved.clients clients) key) := by
  refine (Served.load_agrees serves valid').bind fun workload? workload'? => ?_
  intro served shelved corresponds
  obtain ⟨-, related⟩ := corresponds.held
  cases related with
  | none => exact EndAlike.pure (fun _ _ => Corresponds.forget) _ served shelved corresponds
  | some loaded =>
      obtain ⟨rfl, twins⟩ := loaded
      exact withManagement_agrees serves content valid apart served shelved
        (corresponds.imp fun _ => twins)

theorem ensureFinalizer_agrees {event : Cluster} (valid : event.key.IsValid) :
    (ensureFinalizer (.kubernetes (connection handle)) event).Agrees
      (ensureFinalizer Shelved.store event)
      (Corresponds objects fun documents => documents (ObjectKind.cluster.path event.key) ≠ none :
        Served Server Rest → Shelved Rest → Prop)
      (Corresponds objects fun _ => True) fun _ _ => Corresponds objects fun _ => True := by
  unfold ensureFinalizer
  split
  · exact .pure fun _ _ corresponds => corresponds.forget
  · exact Served.addFinalizer_agrees serves valid Conventions.finalizer

theorem reconcileInternal_agrees (content : clients.GoesByContent) {event : Cluster}
    (valid : settings.managementCluster.IsValid) (valid' : event.key.IsValid)
    (apart : event.key ≠ settings.managementCluster) :
    EndAlike
      (Corresponds objects fun documents => documents (ObjectKind.cluster.path event.key) ≠ none)
      (Corresponds objects fun _ => True)
      (reconcileInternal settings (.kubernetes (connection handle)) (Served.clients clients) event)
      (reconcileInternal settings Shelved.store (Shelved.clients clients) event) := by
  rw [reconcileInternal_eq, reconcileInternal_eq]
  exact (ensureFinalizer_agrees serves valid').bind fun _ _ =>
    afterAdmission_agrees serves content valid valid' apart

/-! ## Runs for a cluster that is being deleted -/

/-- The last steps of a deletion. -/
theorem release_agrees {event : Cluster} (valid : event.key.IsValid) :
    EndAlike
      (Corresponds objects fun documents => documents (ObjectKind.cluster.path event.key) ≠ none)
      (CorrespondsUnlessReleased objects event.key)
      (do
        (ClusterStore.kubernetes (connection handle)).removeFinalizer event.key
          Conventions.finalizer
        pure (NextLook.onChange, Outcome.success))
      (do
        Shelved.store.removeFinalizer event.key Conventions.finalizer
        pure (NextLook.onChange, Outcome.success) : Action (Shelved Rest) _) :=
  (Served.removeFinalizer_agrees serves valid Conventions.finalizer).bind fun _ _ =>
    EndAlike.pure (fun _ _ => id) _

theorem tearDown_agrees {event : Cluster} (valid : event.key.IsValid)
    (apart : event.key ≠ management.loaded.key) :
    EndAlike
      (Corresponds objects fun documents => AreTwins documents management management' ∧
        documents (ObjectKind.cluster.path event.key) ≠ none)
      (CorrespondsUnlessReleased objects event.key)
      (tearDown (.kubernetes (connection handle)) event management)
      (tearDown Shelved.store event management' : Action (Shelved Rest) _) := by
  intro served shelved corresponds
  obtain ⟨twins, there⟩ := corresponds.held
  obtain ⟨sameResult, twins⟩ := twins_withoutEndpoints event twins
  have stable : ∀ (documents : String → Option Json) document?,
      documents (ObjectKind.cluster.path event.key) ≠ none →
        Function.update documents (ObjectKind.cluster.path management.loaded.key) document?
          (ObjectKind.cluster.path event.key) ≠ none := by
    intro documents document? there
    rwa [Function.update_of_ne fun samePath => apart (valid.clusterPath_inj twins.valid samePath)]
  have begins : Corresponds objects
      (fun documents =>
        AreTwins documents ⟨management.loaded, (withoutEndpoints management.current event).2⟩
          ⟨management'.loaded, (withoutEndpoints management'.current event).2⟩ ∧
        documents (ObjectKind.cluster.path event.key) ≠ none)
      served shelved := corresponds.imp fun _ => ⟨twins, there⟩
  obtain ⟨_, _, first, first', between⟩ :=
    (Served.close_agrees serves (by exact stable) _ _ begins).exists_of_ok
  have steps {World : Type} (store : ClusterStore World) (scope : ClusterScope) :
      tearDown store event scope = (do
        let without := withoutEndpoints scope.current event
        let flush ← (ClusterScope.close store { scope with current := without.2 }).attempt
        Action.ofExcept (passOutcome without.1 [flush])
        store.removeFinalizer event.key Conventions.finalizer
        pure (.onChange, .success)) := rfl
  rw [steps, steps]
  simp only [Action.bind_run, Action.attempt_run, Action.ofExcept_run, first, first']
  rw [passOutcome_of_flushed _ (by simp), passOutcome_of_flushed _ (by simp), sameResult]
  cases (withoutEndpoints management'.current event).1 with
  | error error => exact .error (between.unlessReleased event.key)
  | ok done => exact release_agrees serves valid _ _ between

theorem handleDeletion_agrees {event : Cluster}
    (valid : settings.managementCluster.IsValid) (valid' : event.key.IsValid)
    (apart : event.key ≠ settings.managementCluster) :
    EndAlike
      (Corresponds objects fun documents => documents (ObjectKind.cluster.path event.key) ≠ none)
      (CorrespondsUnlessReleased objects event.key)
      (handleDeletion settings (.kubernetes (connection handle)) event)
      (handleDeletion settings Shelved.store event : Action (Shelved Rest) _) := by
  cases has : event.hasFinalizer Conventions.finalizer with
  | false =>
      intro served shelved corresponds
      rw [handleDeletion_of_not_hasFinalizer has, handleDeletion_of_not_hasFinalizer has]
      exact .ok ⟨rfl, corresponds.unlessReleased event.key⟩
  | true =>
      rw [handleDeletion_of_hasFinalizer has, handleDeletion_of_hasFinalizer has]
      refine (loadManagement_agrees serves valid fun _ _ corresponds =>
        corresponds.unlessReleased event.key).bind fun management management' => ?_
      intro served shelved corresponds
      obtain ⟨there, managed, managements⟩ := corresponds.held
      exact tearDown_agrees serves valid' (managed ▸ apart) served shelved
        (corresponds.imp fun _ => ⟨managements, there⟩)

/-! ## Runs -/

theorem reconcile_agrees (content : clients.GoesByContent) {event : Cluster}
    (valid : settings.managementCluster.IsValid) (valid' : event.key.IsValid) :
    EndAlike
      (Corresponds objects fun documents => documents (ObjectKind.cluster.path event.key) ≠ none)
      (LeftAlike objects event)
      (reconcile settings (.kubernetes (connection handle)) (Served.clients clients) event)
      (reconcile settings Shelved.store (Shelved.clients clients) event) := by
  unfold reconcile
  split
  · exact .pure (fun _ _ => LeftAlike.of_corresponds) _
  · next apart =>
    split
    · next deleting =>
        refine (handleDeletion_agrees serves valid valid' apart).imp fun _ _ left => ⟨left, ?_⟩
        intro stays
        cases deleting.symm.trans stays
    · cases event.loadBalancerType with
      | external => exact .pure (fun _ _ => LeftAlike.of_corresponds) _
      | internal =>
          exact (reconcileInternal_agrees serves content valid valid' apart).imp
            fun _ _ => LeftAlike.of_corresponds
      | other name => exact .fail (fun _ _ => LeftAlike.of_corresponds) _

end Runs

/-- A run for a cluster on an API server, where nobody else writes, comes to the same as a run with
the shelf of the clusters that are read from the documents. Afterwards every document has the
content of the cluster on the shelf, and no document is missing. Only the cluster of a deletion may
have gone from the server, namely if nothing keeps it any more. No patch was refused on the way. -/
theorem reconcile_refines (serves : ServesObjects handle objects) (content : clients.GoesByContent)
    {server : Server} (readable : AreReadable (objects server))
    (settings : ControllerSettings) (valid : settings.managementCluster.IsValid) {event : Cluster}
    (valid' : event.key.IsValid)
    (there : objects server (ObjectKind.cluster.path event.key) ≠ none) (rest : Rest) :
    let run := reconcile settings (.kubernetes (connection handle)) (Served.clients clients) event
      ⟨server, [], rest⟩
    let model := reconcile settings Shelved.store (Shelved.clients clients) event
      ⟨.ofDocuments (objects server), rest⟩
    run.1 = model.1 ∧ run.2.rest = model.2.rest ∧
      model.2.shelf.IsKeptUnlessReleased (objects run.2.server) event.key ∧
      (event.isDeleting = false ∨
          objects run.2.server (ObjectKind.cluster.path event.key) ≠ none →
        model.2.shelf.IsKeptIn (objects run.2.server)) ∧
      ∀ answer ∈ run.2.answers, answer.status = 200 := by
  intro run model
  have begins : Corresponds objects
      (fun documents => documents (ObjectKind.cluster.path event.key) ≠ none)
      ⟨server, [], rest⟩ ⟨.ofDocuments (objects server), rest⟩ :=
    ⟨Shelf.isKeptIn_ofDocuments readable, rfl, by simp [Served.IsUntroubled], there⟩
  obtain ⟨sameResult, ends⟩ := Agree.iff_results.mp
    (reconcile_agrees serves content valid valid' _ _ begins)
  refine ⟨sameResult, ends.rest, ends.kept, ?_, ends.untroubled⟩
  rintro (stays | stillThere)
  · exact ends.whole stays
  · exact ends.kept.isKeptIn stillThere

end Controller

/-! ## The landscape on a server -/

namespace Landscape

/-- A cluster as it was created on a server. -/
def created (cluster : Cluster) : Cluster :=
  { cluster with metadata.space := some "default", metadata.resourceVersion := some "7" }

/-- The server with the document of a cluster. -/
def housing (cluster : Cluster) (server : ApiServer) : ApiServer :=
  server.put .cluster cluster.key cluster.write

def apiServer : ApiServer :=
  housing (created privateRed) (housing (created management) {})

theorem housing_readable {cluster : Cluster} {server : ApiServer}
    (readable : AreReadable fun path => server.objects.get? path) (valid : cluster.key.IsValid)
    (stores : cluster.write.Stores cluster) :
    AreReadable fun path => (housing cluster server).objects.get? path := by
  have updated : (fun path => (housing cluster server).objects.get? path) =
      Function.update (fun path => server.objects.get? path) (ObjectKind.cluster.path cluster.key)
        (some cluster.write) := by
    funext path
    rw [Function.update_apply]
    exact Dictionary.get?_insert _ _ _ _
  rw [updated]
  exact readable.update valid stores

/-- The red cluster when it has been admitted and its deletion has been asked for. -/
def dismissedRed : Cluster :=
  { (created privateRed).addFinalizer Conventions.finalizer with
    metadata.deletionTimestamp := some ⟨0, 0⟩ }

/-- The server when the deletion of the red cluster has been asked for. -/
def dismissingServer : ApiServer :=
  housing dismissedRed (housing (created management) {})

theorem readable_beside_management {cluster : Cluster} (valid : cluster.key.IsValid)
    (stores : cluster.write.Stores cluster) :
    AreReadable fun path =>
      (housing cluster (housing (created management) {})).objects.get? path := by
  have nothing : AreReadable fun path => ({} : ApiServer).objects.get? path := by
    intro key _ document there
    cases there
  refine housing_readable (housing_readable nothing (by decide) ?_) valid stores
  exact ⟨⟨_, rfl⟩, by decide +kernel, by decide +kernel⟩

theorem apiServer_readable : AreReadable fun path => apiServer.objects.get? path :=
  readable_beside_management (by decide) ⟨⟨_, rfl⟩, by decide +kernel, by decide +kernel⟩

theorem dismissingServer_readable : AreReadable fun path => dismissingServer.objects.get? path :=
  readable_beside_management (by decide) ⟨⟨_, rfl⟩, by decide +kernel, by decide +kernel⟩

def serverSettings : ControllerSettings where
  managementCluster := (created management).key

open Controller in
/-- The red cluster gets its finalizer, and both flushes are accepted. When it is deleted on a
server that lets it go, it is gone afterwards. -/
theorem red_on_a_server :
    (let run := reconcile serverSettings (.kubernetes (Served.connection ApiServer.handle))
      (Served.clients (clientFactory Unit)) (created privateRed) ⟨apiServer, [], ()⟩
    let model := reconcile serverSettings Shelved.store (Shelved.clients (clientFactory Unit))
      (created privateRed) ⟨.ofDocuments fun path => apiServer.objects.get? path, ()⟩
    run.1 = .ok (.afterSeconds 300, .success) ∧ run.2.answers.map (·.status) = [200, 200, 200] ∧
      run.1 = model.1 ∧ model.2.shelf.IsKeptIn (fun path => run.2.server.objects.get? path)) ∧
    let run := reconcile serverSettings (.kubernetes (Served.connection ApiServer.handleReleasing))
      (Served.clients (clientFactory Unit)) dismissedRed ⟨dismissingServer, [], ()⟩
    let model := reconcile serverSettings Shelved.store (Shelved.clients (clientFactory Unit))
      dismissedRed ⟨.ofDocuments fun path => dismissingServer.objects.get? path, ()⟩
    run.1 = .ok (.onChange, .success) ∧
      run.2.server.objects.get? (ObjectKind.cluster.path dismissedRed.key) = none ∧
      run.1 = model.1 ∧
      model.2.shelf.IsKeptUnlessReleased (fun path => run.2.server.objects.get? path)
        dismissedRed.key := by
  have sends :
      let run := reconcile serverSettings (.kubernetes (Served.connection ApiServer.handle))
        (Served.clients (clientFactory Unit)) (created privateRed) ⟨apiServer, [], ()⟩
      run.1 = .ok (.afterSeconds 300, .success) ∧
        run.2.answers.map (·.status) = [200, 200, 200] := by
    decide +kernel
  have goes :
      let run := reconcile serverSettings
        (.kubernetes (Served.connection ApiServer.handleReleasing))
        (Served.clients (clientFactory Unit)) dismissedRed ⟨dismissingServer, [], ()⟩
      run.1 = .ok (.onChange, .success) ∧
        run.2.server.objects.get? (ObjectKind.cluster.path dismissedRed.key) = none := by
    decide +kernel
  have refines := @reconcile_refines ApiServer Unit ApiServer.handle _ (clientFactory Unit)
    ApiServer.servesObjects (fun _ => rfl) apiServer apiServer_readable serverSettings (by decide)
    (created privateRed) (by decide) (by decide +kernel) ()
  have releases := @reconcile_refines ApiServer Unit ApiServer.handleReleasing _
    (clientFactory Unit) ApiServer.servesObjects_releasing (fun _ => rfl) dismissingServer
    dismissingServer_readable serverSettings (by decide) dismissedRed (by decide)
    (by decide +kernel) ()
  dsimp only at sends goes refines releases ⊢
  exact ⟨⟨sends.1, sends.2, refines.1, refines.2.2.2.1 (.inl rfl)⟩, goes.1, goes.2, releases.1,
    releases.2.2.1⟩

end Landscape

end ClusterLinks
