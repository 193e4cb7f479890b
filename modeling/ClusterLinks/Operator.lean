import ClusterLinks.Azure.Sessions
import ClusterLinks.Kubernetes.ClusterStore
import ClusterLinks.Settings

/-!
# The operator

The controller over a Kubernetes API server, with clients for Azure.
-/

namespace ClusterLinks.Operator

variable {World : Type}

/-- The clusters in Kubernetes, seen from the world that also holds the clients. -/
def store (connection : ApiConnection World) : ClusterStore (SessionState World) :=
  (ClusterStore.kubernetes connection).within (·.world) fun world state => { state with world }

/-- One run for a cluster as it was when something happened to it. -/
def reconcile (settings : ControllerSettings) (azure : AzureSettings)
    (connection : ApiConnection World) (surroundings : Surroundings World) (cluster : Cluster) :
    Action (SessionState World) (NextLook × Outcome) :=
  Controller.reconcile settings (store connection)
    (Sessions.clients azure connection surroundings) cluster

end ClusterLinks.Operator
