import ClusterLinks.Kubernetes.Client
import ClusterLinks.Store
import ClusterLinks.Store.Patch

/-!
# Clusters in Kubernetes

A store whose clusters are objects of an API server. Changes are sent as merge patches.
-/

namespace ClusterLinks.ClusterStore

variable {World : Type}

/-- Sets the finalizers of a cluster. -/
def patchFinalizers (connection : ApiConnection World) (key : ObjectKey)
    (finalizers : List String) : Action World Unit := do
  let _ ← connection.mergePatch Cluster.reader .cluster key (Patch.finalizers finalizers)
  pure ()

/-- The cluster under a key; a refusal with the code 404 means that there is none. -/
def find? (connection : ApiConnection World) (key : ObjectKey) : Action World (Option Cluster) :=
  connection.find? KubernetesError.hasMissingCode Cluster.reader .cluster key

/-- Sends what differs between two states of a cluster, if anything does. -/
def sendChanges (connection : ApiConnection World) (before after : Cluster) :
    Action World Unit :=
  match Patch.between? before after with
  | none => pure ()
  | some patch => do
      let _ ← connection.mergePatch Cluster.reader .cluster after.key patch
      pure ()

/-- Reads the finalizers of a cluster and adds one that is not among them. -/
def sendFinalizer (connection : ApiConnection World) (key : ObjectKey) (finalizer : String) :
    Action World Unit := do
  let cluster ← connection.get Cluster.reader .cluster key
  let finalizers := cluster.metadata.finalizers.getD []
  if finalizers.contains finalizer then pure ()
  else patchFinalizers connection key (finalizers ++ [finalizer])

/-- Reads the finalizers of a cluster and drops one that is among them. -/
def dropFinalizer (connection : ApiConnection World) (key : ObjectKey) (finalizer : String) :
    Action World Unit := do
  let cluster? ← find? connection key
  match cluster? with
  | none => pure ()
  | some cluster =>
      let finalizers := cluster.metadata.finalizers.getD []
      if finalizers.contains finalizer then
        patchFinalizers connection key (finalizers.filter (· ≠ finalizer))
      else pure ()

def kubernetes (connection : ApiConnection World) : ClusterStore World where
  get := find? connection
  persist := sendChanges connection
  addFinalizer := sendFinalizer connection
  removeFinalizer := dropFinalizer connection

end ClusterLinks.ClusterStore
