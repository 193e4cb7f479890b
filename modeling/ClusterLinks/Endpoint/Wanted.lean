import ClusterLinks.ClusterIdentity
import ClusterLinks.ResourceId

/-!
# Wanted endpoints

The endpoint that has to exist for a link. Its name follows from the link, or from the two
clusters, so that looking for the name tells whether it is there.
-/

namespace ClusterLinks.PrivateEndpoint

def nameFor (link : String) : String :=
  link ++ "-privateendpoint"

def connectionNameFor (link : String) : String :=
  link ++ "-connection"

def ingressNameFor (workloadCluster managementCluster : String) : String :=
  workloadCluster ++ "-to-" ++ managementCluster ++ "-privatelink-privateendpoint"

/-- An endpoint of the host that connects to a link of the owner. A link that does not approve
the host by itself gets the message to show to whoever does. -/
def wanted (name : String) (host owner : ClusterIdentity) (link : PrivateLink)
    (message : String) : PrivateEndpoint :=
  let manualApproval := !link.autoApproves host.subscriptionId
  { name
    location := host.location
    connections :=
      [{ name := connectionNameFor link.name
         privateLinkServiceId :=
           ResourceId.privateLink owner.subscriptionId owner.resourceGroup link.name
         requestMessage := if manualApproval then message else "" }]
    manualApproval }

/-- The endpoint through which a management cluster reaches the API server of a workload
cluster. -/
def forApiServer (host owner : ClusterIdentity) (link : PrivateLink) : PrivateEndpoint :=
  wanted (nameFor link.name) host owner link <|
    "privlink-operator running in management cluster " ++ host.name ++
      " created this private endpoint to access private workload cluster " ++ owner.name

/-- The endpoint through which a workload cluster reaches the ingress of a management cluster. -/
def forIngress (host owner : ClusterIdentity) (link : PrivateLink) : PrivateEndpoint :=
  wanted (ingressNameFor host.name owner.name) host owner link <|
    "privlink-operator running in management cluster " ++ owner.name ++
      " created this private endpoint so that private workload cluster " ++ host.name ++
      " can reach management cluster ingress"

end ClusterLinks.PrivateEndpoint
