import ClusterLinks.Proofs.Endpoint.Connections

/-!
# The core of a cluster

A pass writes to the subnets and to the annotations of a cluster. The rest is its core: who it is,
where it lives and which links it publishes. Whatever is decided from the core is decided the same
way before and after a pass.
-/

namespace ClusterLinks

namespace Cluster

/-- The cluster without what a pass may write. -/
def core (cluster : Cluster) : Cluster :=
  (cluster.withSubnets []).withAnnotations none

variable {cluster cluster' : Cluster}

@[simp] theorem core_withSubnets (cluster : Cluster) (subnets : List Subnet) :
    (cluster.withSubnets subnets).core = cluster.core := rfl

@[simp] theorem core_withAnnotations (cluster : Cluster)
    (annotations : Option (Dictionary String)) :
    (cluster.withAnnotations annotations).core = cluster.core := rfl

/-- What is read off the core is read off every cluster with that core. -/
theorem eq_of_core_eq {α : Type} (read : Cluster → α)
    (fromCore : ∀ cluster : Cluster, read cluster.core = read cluster)
    (same : cluster'.core = cluster.core) : read cluster' = read cluster := by
  rw [← fromCore cluster', same, fromCore]

theorem key_of_core_eq (same : cluster'.core = cluster.core) : cluster'.key = cluster.key :=
  eq_of_core_eq key (fun _ => rfl) same

theorem hasFinalizer_of_core_eq (same : cluster'.core = cluster.core) (finalizer : String) :
    cluster'.hasFinalizer finalizer = cluster.hasFinalizer finalizer :=
  eq_of_core_eq (·.hasFinalizer finalizer) (fun _ => rfl) same

theorem place_of_core_eq (same : cluster'.core = cluster.core) : cluster'.place = cluster.place :=
  eq_of_core_eq place (fun _ => rfl) same

theorem privateLinks_of_core_eq (same : cluster'.core = cluster.core) :
    cluster'.privateLinks = cluster.privateLinks :=
  eq_of_core_eq privateLinks (fun _ => rfl) same

theorem loadBalancerType_of_core_eq (same : cluster'.core = cluster.core) :
    cluster'.loadBalancerType = cluster.loadBalancerType :=
  eq_of_core_eq loadBalancerType (fun _ => rfl) same

theorem identity_of_core_eq (same : cluster'.core = cluster.core) :
    ClusterIdentity.ofCluster cluster' = ClusterIdentity.ofCluster cluster :=
  eq_of_core_eq ClusterIdentity.ofCluster (fun _ => rfl) same

end Cluster

/-- Clusters with one core have one link directory, up to what is on record. -/
theorem LinkDirectory.ofCluster_of_core_eq {cluster cluster' : Cluster}
    (same : cluster'.core = cluster.core) :
    ofCluster cluster' =
      (ofCluster cluster).map ({ · with annotations := cluster'.metadata.annotations }) := by
  have conditions : cluster'.conditions = cluster.conditions :=
    Cluster.eq_of_core_eq Cluster.conditions (fun _ => rfl) same
  simp only [ofCluster, Cluster.identity_of_core_eq same, Cluster.privateLinks_of_core_eq same,
    conditions]
  cases ClusterIdentity.ofCluster cluster <;> rfl

end ClusterLinks
