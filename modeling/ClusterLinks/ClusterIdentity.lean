import ClusterLinks.Cluster
import ClusterLinks.Error

/-!
# Who a cluster is

The part of a cluster that names it and says where in Azure it lives.
-/

namespace ClusterLinks

structure ClusterIdentity where
  name : String := ""
  space : String := ""
  subscriptionId : String := ""
  location : String := ""
  resourceGroup : String := ""
  deriving DecidableEq

/-- A cluster without a name cannot take part in anything. -/
def ClusterIdentity.ofCluster (cluster : Cluster) : Except Error ClusterIdentity :=
  match cluster.metadata.name with
  | none | some "" => .error (.invalidConfig "AzureCluster has no metadata.name")
  | some name =>
      .ok
        { name
          space := cluster.metadata.space.getD ""
          subscriptionId := cluster.spec.subscriptionId
          location := cluster.spec.location
          resourceGroup := cluster.spec.resourceGroup }

end ClusterLinks
