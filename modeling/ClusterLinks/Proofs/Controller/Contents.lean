import ClusterLinks.Azure.Sessions
import ClusterLinks.Proofs.Action.Agreement
import ClusterLinks.Proofs.Controller.Plan
import ClusterLinks.Proofs.Pass.Content

/-!
# Passes of a run and contents

The two passes of a run come to the same on clusters with the same content, if the clients do. So it
makes no difference to them whether a cluster comes from a document or has never been one.
-/

namespace ClusterLinks

variable {World α β : Type}

/-- Clients are found by the content of a cluster. -/
def ClientFactory.GoesByContent (clients : ClientFactory World) : Prop :=
  ∀ cluster : Cluster, clients.client cluster.content = clients.client cluster

/-- The identity of a cluster, and so its client, has nothing to do with what a document may
change. -/
theorem Sessions.goesByContent_clients (settings : AzureSettings) (connection : ApiConnection World)
    (surroundings : Surroundings World) :
    (clients settings connection surroundings).GoesByContent :=
  fun _ => rfl

namespace Controller

/-- The clusters have the same content, and the rest is the same. -/
structure Workspace.SameContent (workspace workspace' : Workspace World) : Prop where
  management : workspace.management.current.content = workspace'.management.current.content
  workload : workspace.workload.current.content = workspace'.workload.current.content
  world : workspace.world = workspace'.world

/-- Two actions come to the same on clusters with the same content. -/
def Alike (action action' : Action (Workspace World) α) : Prop :=
  action.Agrees action' Workspace.SameContent Workspace.SameContent
    fun value value' workspace workspace' => value = value' ∧ workspace.SameContent workspace'

namespace Alike

variable {action action' : Action (Workspace World) α}
variable {next next' : α → Action (Workspace World) β}

theorem of_results
    (same : ∀ workspace workspace' : Workspace World, workspace.SameContent workspace' →
      (action workspace).1 = (action' workspace').1 ∧
        (action workspace).2.SameContent (action' workspace').2) : Alike action action' :=
  fun workspace workspace' sameContent =>
    Agree.iff_results.mpr (same workspace workspace' sameContent)

theorem bind (first : Alike action action') (rest : ∀ value, Alike (next value) (next' value)) :
    Alike (action >>= next) (action' >>= next') := by
  refine Action.Agrees.bind first fun value value' workspace workspace' agreed => ?_
  obtain ⟨rfl, sameContent⟩ := agreed
  exact rest value workspace workspace' sameContent

/-- Who looks at a cluster sees the same content. -/
theorem bind_cluster {read : Workspace World → Cluster}
    (sees : ∀ workspace workspace' : Workspace World, workspace.SameContent workspace' →
      (read workspace).content = (read workspace').content)
    {next next' : Cluster → Action (Workspace World) α}
    (rest : ∀ cluster cluster' : Cluster, cluster.content = cluster'.content →
      Alike (next cluster) (next' cluster')) :
    Alike (Action.inspect read >>= next) (Action.inspect read >>= next') :=
  fun workspace workspace' sameContent =>
    rest _ _ (sees workspace workspace' sameContent) workspace workspace' sameContent

theorem attempt (first : Alike action action') : Alike action.attempt action'.attempt :=
  Action.Agrees.attempt first
    (fun _ _ _ _ agreed => ⟨congrArg Except.ok agreed.1, agreed.2⟩)
    fun _ _ _ sameContent => ⟨rfl, sameContent⟩

theorem ofExcept (result : Except Error α) :
    Alike (Action.ofExcept result : Action (Workspace World) α) (Action.ofExcept result) :=
  Action.Agrees.ofExcept (fun _ _ _ _ sameContent => ⟨rfl, sameContent⟩)
    fun _ _ sameContent => sameContent

end Alike

variable {clients : ClientFactory World}

theorem apiServerPass_alike (client : EndpointsClient World) :
    Alike (apiServerPass client) (apiServerPass client) := by
  apply Alike.of_results
  intro workspace workspace' same
  have here := Pass.run_reconcile_content (some client) workspace.management.current
    workspace.workload.current workspace.world
  have there := Pass.run_reconcile_content (some client) workspace'.management.current
    workspace'.workload.current workspace'.world
  rw [same.management, same.workload, same.world, there, Prod.mk.injEq, Prod.mk.injEq,
    Prod.mk.injEq, ← same.world] at here
  obtain ⟨results, hosts, owners, worlds⟩ := here
  simp only [apiServerPass, ← same.world]
  exact ⟨results.symm, hosts.symm, owners.symm, worlds.symm⟩

theorem ingressPass_alike (client : EndpointsClient World) (identity : ClusterIdentity)
    (link : PrivateLink) :
    Alike (ingressPass client identity link) (ingressPass client identity link) := by
  apply Alike.of_results
  intro workspace workspace' same
  have here := Pass.runAlone_ingress_content (some client) identity link
    workspace.workload.current workspace.world
  have there := Pass.runAlone_ingress_content (some client) identity link
    workspace'.workload.current workspace'.world
  rw [same.workload, same.world, there, Prod.mk.injEq, Prod.mk.injEq, ← same.world] at here
  obtain ⟨results, clusters, worlds⟩ := here
  simp only [ingressPass, ← same.world]
  exact ⟨results.symm, same.management, clusters.symm, worlds.symm⟩

section Clients

variable (content : clients.GoesByContent)

include content

theorem client_alike {cluster cluster' : Cluster} (same : cluster.content = cluster'.content) :
    Alike (outside (clients.client cluster)) (outside (clients.client cluster')) := by
  have sameClient : clients.client cluster = clients.client cluster' := by
    rw [← content cluster, same, content]
  apply Alike.of_results
  intro workspace workspace' sameContent
  simp only [outside, Action.within_run, sameClient, sameContent.world, true_and]
  exact ⟨sameContent.management, sameContent.workload, rfl⟩

theorem ingressTurn_alike (identity : ClusterIdentity) (type : LoadBalancerType)
    (links : List PrivateLink) :
    Alike (ingressTurn clients identity type links) (ingressTurn clients identity type links) := by
  unfold ingressTurn
  split
  · refine .bind_cluster (fun _ _ same => same.workload) fun workload workload' same => ?_
    exact (client_alike content same).bind fun client => ingressPass_alike client identity _
  · exact .ofExcept (.ok ())

/-- Both passes go by the contents of the clusters. -/
theorem reconcilePrivate_alike : Alike (reconcilePrivate clients) (reconcilePrivate clients) := by
  rw [reconcilePrivate_eq]
  refine .bind_cluster (fun _ _ same => same.management) fun management management' same => ?_
  refine .bind_cluster (fun _ _ same => same.workload) fun workload workload' same' => ?_
  have sameIdentity :
      ClusterIdentity.ofCluster management = ClusterIdentity.ofCluster management' :=
    Cluster.eq_of_content_eq ClusterIdentity.ofCluster Cluster.identity_content same
  have sameType : management.loadBalancerType = management'.loadBalancerType :=
    Cluster.eq_of_content_eq Cluster.loadBalancerType (fun _ => rfl) same
  have sameLinks : management.privateLinks = management'.privateLinks :=
    Cluster.eq_of_content_eq Cluster.privateLinks (fun _ => rfl) same
  have sameSubscription : workload.spec.subscriptionId = workload'.spec.subscriptionId :=
    Cluster.eq_of_content_eq (·.spec.subscriptionId) (fun _ => rfl) same'
  rw [sameIdentity, sameType, sameLinks, sameSubscription]
  refine (Alike.ofExcept _).bind fun identity => (client_alike content same).bind fun client =>
    (apiServerPass_alike client).attempt.bind fun result => ?_
  unfold afterApiServer
  split
  · exact .ofExcept result
  · exact (ingressTurn_alike content identity _ _).bind fun _ => .ofExcept result

end Clients

/-- The subnets of both clusters can be written and read back. -/
structure Workspace.IsTidy (workspace : Workspace World) : Prop where
  management : workspace.management.current.IsTidy
  workload : workspace.workload.current.IsTidy

def Workspace.StaysTidy (before after : Workspace World) : Prop :=
  before.IsTidy → after.IsTidy

/-- The passes leave nothing behind that cannot be written. -/
theorem staysTidy_reconcilePrivate (clients : ClientFactory World) :
    (reconcilePrivate clients).Keeps Workspace.StaysTidy := by
  have spares : clients.Spares fun _ => () := ⟨fun _ _ => rfl, fun _ _ _ _ _ _ _ => rfl⟩
  have reflexive (workspace : Workspace World) : workspace.StaysTidy workspace := id
  have transitive {first second third : Workspace World} (before : first.StaysTidy second)
      (after : second.StaysTidy third) : first.StaysTidy third := fun tidy => after (before tidy)
  apply reconcilePrivate_keeps spares reflexive transitive
  · exact fun _ _ tidy => ⟨tidy.management, tidy.workload⟩
  · intro client _ workspace tidy
    exact ⟨Pass.isTidy_run_reconcile tidy.management _,
      Pass.isTidy_owner_run_reconcile tidy.workload _⟩
  · intro client _ identity link workspace tidy
    exact ⟨tidy.management, Pass.isTidy_runAlone_ingress tidy.workload _⟩

end Controller

end ClusterLinks
