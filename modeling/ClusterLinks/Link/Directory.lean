import ClusterLinks.ClusterIdentity
import ClusterLinks.Net.IpAddress
import ClusterLinks.ResourceId

/-!
# The links of a cluster

The links that a cluster publishes, whether they can be connected to, and the annotations in
which the addresses found for it are recorded.
-/

namespace ClusterLinks

/-- Which of the two clusters an address lets the other one reach. -/
inductive Direction where
  | toApiServer
  | toIngress
  deriving DecidableEq

def Direction.annotation : Direction → String
  | .toApiServer => Conventions.apiServerAddress
  | .toIngress => Conventions.ingressAddress

structure LinkDirectory where
  identity : ClusterIdentity
  links : List PrivateLink
  conditions : List Condition
  annotations : Option (Dictionary String)
  deriving DecidableEq

namespace LinkDirectory

def ofCluster (cluster : Cluster) : Except Error LinkDirectory :=
  match ClusterIdentity.ofCluster cluster with
  | .ok identity =>
      .ok ⟨identity, cluster.privateLinks, cluster.conditions, cluster.metadata.annotations⟩
  | .error error => .error error

/-- The identifier of a link of this cluster. -/
def idOf (directory : LinkDirectory) (link : PrivateLink) : String :=
  ResourceId.privateLink directory.identity.subscriptionId directory.identity.resourceGroup
    link.name

/-- The declared link with an identifier. -/
def find? (directory : LinkDirectory) (id : String) : Option PrivateLink :=
  directory.links.find? (directory.idOf · == id)

/-- The links that a subscription may connect to, in declaration order. -/
def allowing (directory : LinkDirectory) (subscription : String) : List PrivateLink :=
  PrivateLink.allowing directory.links subscription

/-- Whether the links can be connected to. -/
def isReady (directory : LinkDirectory) : Bool :=
  Condition.holds directory.conditions Conventions.linksReadyCondition

/-- The address on record. -/
def recorded? (directory : LinkDirectory) (direction : Direction) : Option String :=
  directory.annotations.bind (·.get? direction.annotation)

/-- Records an address; one that is on record already leaves everything as it is. -/
def record (direction : Direction) (address : IpAddress) (directory : LinkDirectory) :
    LinkDirectory :=
  if directory.recorded? direction = some address.toText then directory
  else
    { directory with
      annotations :=
        some ((directory.annotations.getD ∅).insert direction.annotation address.toText) }

end LinkDirectory

end ClusterLinks
