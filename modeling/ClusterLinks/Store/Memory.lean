import ClusterLinks.Store

/-!
# Clusters in memory

The simplest store: clusters in the order of their keys. No call fails.
-/

namespace ClusterLinks

/-- Clusters under their keys, in the order of the keys as text. -/
structure ClusterMap where
  clusters : Dictionary Cluster := ∅
  deriving DecidableEq

namespace ClusterMap

def get? (map : ClusterMap) (key : ObjectKey) : Option Cluster :=
  map.clusters.get? key.toText

def put (map : ClusterMap) (cluster : Cluster) : ClusterMap :=
  ⟨map.clusters.insert cluster.key.toText cluster⟩

def remove (map : ClusterMap) (key : ObjectKey) : ClusterMap :=
  ⟨map.clusters.erase key.toText⟩

/-- Changes the cluster under a key, if there is one. -/
def change (map : ClusterMap) (key : ObjectKey) (change : Cluster → Cluster) : ClusterMap :=
  match map.get? key with
  | some cluster => ⟨map.clusters.insert key.toText (change cluster)⟩
  | none => map

end ClusterMap

namespace Cluster

/-- The cluster with a finalizer at the end of its list, unless it has it. -/
def addFinalizer (finalizer : String) (cluster : Cluster) : Cluster :=
  if cluster.hasFinalizer finalizer then cluster
  else cluster.withFinalizers (some (cluster.metadata.finalizers.getD [] ++ [finalizer]))

/-- The cluster without any occurrence of a finalizer; an unset list stays unset. -/
def removeFinalizer (finalizer : String) (cluster : Cluster) : Cluster :=
  cluster.withFinalizers (cluster.metadata.finalizers.map (·.filter (· ≠ finalizer)))

end Cluster

namespace ClusterStore

/-- A store that keeps clusters in a map and never fails. -/
def memory : ClusterStore ClusterMap where
  get key := .inspect (·.get? key)
  persist _ after := .modify (·.put after)
  addFinalizer key finalizer := .modify (·.change key (·.addFinalizer finalizer))
  removeFinalizer key finalizer := .modify (·.change key (·.removeFinalizer finalizer))

end ClusterStore

end ClusterLinks
