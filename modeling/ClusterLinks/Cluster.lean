import ClusterLinks.Conventions
import ClusterLinks.Json
import ClusterLinks.Timestamp

/-!
# Clusters

The declaration of a cluster in Azure as far as private links and private endpoints are
concerned. What other controllers keep in the same documents is carried along in `extra`.
-/

namespace ClusterLinks

/-- Entries of a document that belong to somebody else. -/
abbrev Extra := Dictionary Json

/-- A reference to an object by name and namespace. -/
structure ObjectReference where
  name : String := ""
  space : String := ""
  extra : Extra := ∅
  deriving DecidableEq

/-- A link that a cluster publishes for others to connect to. -/
structure PrivateLink where
  name : String
  allowedSubscriptions : List String := []
  autoApprovedSubscriptions : List String := []
  extra : Extra := ∅
  deriving DecidableEq

namespace PrivateLink

/-- Whether a subscription may connect to the link. -/
def allows (link : PrivateLink) (subscription : String) : Bool :=
  link.allowedSubscriptions.contains subscription

/-- Whether connections from a subscription are approved without anybody looking. -/
def autoApproves (link : PrivateLink) (subscription : String) : Bool :=
  link.autoApprovedSubscriptions.contains subscription

/-- The links that a subscription may connect to, in declaration order. -/
def allowing (links : List PrivateLink) (subscription : String) : List PrivateLink :=
  links.filter (·.allows subscription)

end PrivateLink

structure LoadBalancer where
  type : Option String := none
  privateLinks : List PrivateLink := []
  extra : Extra := ∅
  deriving DecidableEq

/-- How the API server of a cluster can be reached. -/
inductive LoadBalancerType where
  | external
  | internal
  | other (name : String)
  deriving DecidableEq

namespace LoadBalancerType

/-- An unset or empty type means that the API server is open to the public. -/
def ofText? : Option String → LoadBalancerType
  | none => .external
  | some text =>
      if text = "" ∨ text = "Public" then .external
      else if text = "Internal" then .internal
      else .other text

def toText : LoadBalancerType → String
  | .external => "Public"
  | .internal => "Internal"
  | other name => name

end LoadBalancerType

/-- The link that an endpoint is connected to. -/
structure EndpointConnection where
  name : String := ""
  privateLinkServiceId : String := ""
  requestMessage : String := ""
  extra : Extra := ∅
  deriving DecidableEq

/-- An endpoint that a cluster wants in one of its subnets, known by its name. -/
structure PrivateEndpoint where
  name : String
  location : String := ""
  connections : List EndpointConnection := []
  manualApproval : Bool := false
  extra : Extra := ∅
  deriving DecidableEq

structure Subnet where
  name : String := ""
  role : Option String := none
  endpoints : List PrivateEndpoint := []
  extra : Extra := ∅
  deriving DecidableEq

/-- Whether the subnet is there for nodes. -/
def Subnet.isForNodes (subnet : Subnet) : Bool :=
  subnet.role = some Conventions.nodeRole

structure NetworkSpec where
  apiServerLoadBalancer : Option LoadBalancer := none
  subnets : List Subnet := []
  extra : Extra := ∅
  deriving DecidableEq

structure ClusterSpec where
  subscriptionId : String := ""
  location : String := ""
  resourceGroup : String := ""
  identityRef : Option ObjectReference := none
  network : NetworkSpec := {}
  extra : Extra := ∅
  deriving DecidableEq

inductive ConditionStatus where
  | true
  | false
  | unknown
  deriving DecidableEq

/-- What some controller has observed about a cluster. -/
structure Condition where
  type : String
  status : ConditionStatus := .unknown
  reason : Option String := none
  message : Option String := none
  extra : Extra := ∅
  deriving DecidableEq

/-- Whether the first condition of a type says that it holds. -/
def Condition.holds (conditions : List Condition) (type : String) : Bool :=
  match conditions.find? (·.type = type) with
  | some condition => condition.status = .true
  | none => false

structure ClusterStatus where
  conditions : List Condition := []
  extra : Extra := ∅
  deriving DecidableEq

/-- The part of a document that all Kubernetes objects share; `space` is the namespace. -/
structure Metadata where
  name : Option String := none
  generateName : Option String := none
  space : Option String := none
  annotations : Option (Dictionary String) := none
  labels : Option (Dictionary String) := none
  finalizers : Option (List String) := none
  resourceVersion : Option String := none
  uid : Option String := none
  generation : Option Int := none
  deletionTimestamp : Option Timestamp := none
  deriving DecidableEq

/-- The name of the object, or the one that a name is to be generated from. -/
def Metadata.displayName (metadata : Metadata) : String :=
  (metadata.name.orElse fun _ => metadata.generateName).getD ""

/-- Namespace and name of an object. -/
structure ObjectKey where
  space : String
  name : String
  deriving DecidableEq

def ObjectKey.toText (key : ObjectKey) : String :=
  key.space ++ "/" ++ key.name

/-- The key that a text stands for: the namespace ends at the first slash. -/
def ObjectKey.ofText (text : String) : ObjectKey :=
  let characters := text.toList
  ⟨String.ofList (characters.takeWhile (· ≠ '/')),
    String.ofList ((characters.dropWhile (· ≠ '/')).drop 1)⟩

structure Cluster where
  metadata : Metadata
  spec : ClusterSpec
  status : Option ClusterStatus := none
  deriving DecidableEq

namespace Cluster

def displayName (cluster : Cluster) : String :=
  cluster.metadata.displayName

def key (cluster : Cluster) : ObjectKey :=
  ⟨cluster.metadata.space.getD "", cluster.displayName⟩

def annotation? (cluster : Cluster) (name : String) : Option String :=
  cluster.metadata.annotations.bind (·.get? name)

def hasFinalizer (cluster : Cluster) (finalizer : String) : Bool :=
  (cluster.metadata.finalizers.getD []).contains finalizer

def privateLinks (cluster : Cluster) : List PrivateLink :=
  match cluster.spec.network.apiServerLoadBalancer with
  | some loadBalancer => loadBalancer.privateLinks
  | none => []

def loadBalancerType (cluster : Cluster) : LoadBalancerType :=
  .ofText? (cluster.spec.network.apiServerLoadBalancer.bind (·.type))

def conditions (cluster : Cluster) : List Condition :=
  match cluster.status with
  | some status => status.conditions
  | none => []

def subnets (cluster : Cluster) : List Subnet :=
  cluster.spec.network.subnets

def withSubnets (cluster : Cluster) (subnets : List Subnet) : Cluster :=
  { cluster with spec.network.subnets := subnets }

def withAnnotations (cluster : Cluster) (annotations : Option (Dictionary String)) : Cluster :=
  { cluster with metadata.annotations := annotations }

def withFinalizers (cluster : Cluster) (finalizers : Option (List String)) : Cluster :=
  { cluster with metadata.finalizers := finalizers }

/-- Whether somebody has asked for the cluster to be deleted. -/
def isDeleting (cluster : Cluster) : Bool :=
  cluster.metadata.deletionTimestamp.isSome

end Cluster

end ClusterLinks
