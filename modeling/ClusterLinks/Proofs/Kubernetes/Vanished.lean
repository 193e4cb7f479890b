import ClusterLinks.Proofs.Kubernetes.Refinement

/-!
# Clusters that are gone

An event may be about a cluster that is not on the server any more. A run that loads the cluster
takes note of that and stops, and a finalizer of it need not be taken away. But a finalizer cannot
be given to it: a run that begins with this fails, and it is counted as fatal. So it depends on the
event how a run for a cluster that is gone ends. Nothing is written in either case.
-/

namespace ClusterLinks

variable {Server Rest : Type}
variable {handle : ApiRequest → Server → Http.Reply × Server}
variable {objects : Server → String → Option Json}

open Served (connection IsGone)

/-- A cluster that is gone has no finalizer to take away, and it cannot be given one. -/
theorem FinalizerChange.call_of_isGone {served : Served Server Rest} {key : ObjectKey}
    (serves : ServesObjects handle objects) (gone : IsGone objects served.server key)
    (change : FinalizerChange) (finalizer : String) :
    ∃ result server', objects server' = objects served.server ∧
      change.call (.kubernetes (connection handle)) key finalizer served =
        (result, { served with server := server' }) ∧
      match change with
      | .add => ∃ cause, cause.hasMissingCode = true ∧ result = .error (.kubernetes cause)
      | .remove => result = .ok () := by
  cases change with
  | add =>
      obtain ⟨cause, server', missing, unchanged, reads⟩ := Served.get_of_isGone serves gone
      refine ⟨_, server', unchanged, ?_, cause, missing, rfl⟩
      exact Action.bind_of_error reads _
  | remove =>
      obtain ⟨server', unchanged, finds⟩ := Served.find?_of_isGone serves gone
      refine ⟨_, server', unchanged, ?_, rfl⟩
      exact Action.bind_of_ok finds _

namespace Controller

/-- A run that looks for a cluster that is gone is over. -/
theorem afterAdmission_of_isGone (serves : ServesObjects handle objects)
    (settings : ControllerSettings) (clients : ClientFactory (Served Server Rest))
    {served : Served Server Rest} {key : ObjectKey} (gone : IsGone objects served.server key) :
    ∃ server', objects server' = objects served.server ∧
      afterAdmission settings (.kubernetes (connection handle)) clients key served =
        (.ok (.onChange, .skipped), { served with server := server' }) := by
  obtain ⟨server', unchanged, finds⟩ := Served.find?_of_isGone serves gone
  have loads : ClusterScope.load (.kubernetes (connection handle)) key served =
      (.ok none, { served with server := server' }) :=
    Action.bind_of_ok finds _
  exact ⟨server', unchanged, Action.bind_of_ok loads _⟩

/-- A run for an internal cluster that is gone leaves every object as it was and sends no patch. It
is skipped if the event says that the cluster has the finalizer. If not, the run fails, because the
cluster is missing, and it is counted as fatal. -/
theorem reconcile_of_isGone (serves : ServesObjects handle objects)
    (settings : ControllerSettings) (clients : ClientFactory (Served Server Rest))
    (event : Cluster) (stays : event.isDeleting = false)
    (internal : event.loadBalancerType = .internal)
    (apart : event.key ≠ settings.managementCluster) (server : Server)
    (gone : IsGone objects server event.key) (rest : Rest) :
    let run := reconcile settings (.kubernetes (connection handle)) clients event
      ⟨server, [], rest⟩
    (objects run.2.server = objects server ∧ run.2.answers = [] ∧ run.2.rest = rest) ∧
      if event.hasFinalizer Conventions.finalizer then run.1 = .ok (.onChange, .skipped)
      else outcomeOf run.1 = .fatal ∧
        ∃ cause, cause.hasMissingCode = true ∧ run.1 = .error (.kubernetes cause) := by
  intro run
  have runIs : run = (ensureFinalizer (.kubernetes (connection handle)) event >>= fun _ =>
      afterAdmission settings (.kubernetes (connection handle)) clients event.key)
        ⟨server, [], rest⟩ := by
    simp only [run, reconcile, if_neg apart, stays, Bool.false_eq_true, if_false, internal,
      reconcileInternal_eq]
  have goneAtFirst : IsGone objects (Served.mk server [] rest).server event.key := gone
  cases has : event.hasFinalizer Conventions.finalizer with
  | true =>
      obtain ⟨server', unchanged, skipped⟩ :=
        afterAdmission_of_isGone serves settings clients goneAtFirst
      have admits : ensureFinalizer (.kubernetes (connection handle)) event =
          (pure () : Action (Served Server Rest) Unit) := if_pos has
      rw [admits, pure_bind, skipped] at runIs
      rw [runIs, if_pos rfl]
      exact ⟨⟨unchanged, rfl, rfl⟩, rfl⟩
  | false =>
      obtain ⟨result, server', unchanged, calls, cause, missing, rfl⟩ :=
        FinalizerChange.add.call_of_isGone serves goneAtFirst Conventions.finalizer
      have admits : ensureFinalizer (.kubernetes (connection handle)) event ⟨server, [], rest⟩ =
          (.error (.kubernetes cause), ⟨server', [], rest⟩) := by
        rw [ensureFinalizer, if_neg (by simp [has])]
        exact calls
      rw [Action.bind_of_error admits] at runIs
      rw [runIs, if_neg (by simp)]
      exact ⟨⟨unchanged, rfl, rfl⟩, rfl, cause, missing, rfl⟩

end Controller

/-! ## The landscape when a cluster is gone -/

namespace Landscape

/-- The server on which nothing is left but the management cluster. -/
def emptied : ApiServer := housing (created management) {}

/-- The red cluster as it was when it had the finalizer. -/
def admittedRed : Cluster := (created privateRed).addFinalizer Conventions.finalizer

open Controller in
/-- The red cluster is gone, and an event about it as it was last is skipped. -/
theorem red_is_skipped_when_gone :
    let run := reconcile serverSettings (.kubernetes (connection ApiServer.handle))
      (Served.clients (clientFactory Unit)) admittedRed ⟨emptied, [], ()⟩
    run.1 = .ok (.onChange, .skipped) ∧ run.2.answers = [] ∧
      ∀ path, run.2.server.objects.get? path = emptied.objects.get? path := by
  have gone : IsGone (fun (server : ApiServer) path => server.objects.get? path) emptied
      admittedRed.key :=
    Served.isGone_of_absent (by decide) (by decide +kernel)
  obtain ⟨⟨unchanged, unanswered, -⟩, skipped⟩ := reconcile_of_isGone ApiServer.servesObjects
    serverSettings (Served.clients (clientFactory Unit)) admittedRed rfl rfl (by decide) emptied
    gone ()
  rw [if_pos (by decide)] at skipped
  exact ⟨skipped, unanswered, congrFun unchanged⟩

open Controller in
/-- An event about the red cluster as it was created is not skipped: the run fails. -/
theorem red_fails_when_gone :
    (created privateRed).isDeleting = false ∧ (created privateRed).loadBalancerType = .internal ∧
      (created privateRed).key ≠ serverSettings.managementCluster ∧
      emptied.objects.get? (ObjectKind.cluster.path (created privateRed).key) = none ∧
      let run := reconcile serverSettings (.kubernetes (connection ApiServer.handle))
        (Served.clients (clientFactory Unit)) (created privateRed) ⟨emptied, [], ()⟩
      run.1 ≠ .ok (.onChange, .skipped) ∧ outcomeOf run.1 = .fatal := by
  decide +kernel

end Landscape

end ClusterLinks
