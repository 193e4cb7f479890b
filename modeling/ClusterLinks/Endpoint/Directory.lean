import ClusterLinks.ClusterIdentity
import ClusterLinks.Endpoint.Resource
import ClusterLinks.ResourceId

/-!
# The endpoints of a cluster

A cluster hosts its private endpoints in one subnet: the first one for nodes, or else the first
one. Endpoints are told apart by name; adding one whose name is taken changes nothing, and
removing a name takes the first endpoint that bears it.
-/

namespace ClusterLinks

namespace PrivateEndpoint

/-- Whether some connection leads into the resource group. -/
def leadsInto (endpoint : PrivateEndpoint) (subscription group : String) : Bool :=
  endpoint.connections.any fun connection =>
    ResourceId.isInGroup connection.privateLinkServiceId subscription group

end PrivateEndpoint

namespace Endpoints

/-- Whether an endpoint has the name. -/
def has (name : String) (endpoints : List PrivateEndpoint) : Bool :=
  endpoints.any (·.name == name)

/-- Appends an endpoint unless its name is taken. -/
def add (endpoint : PrivateEndpoint) (endpoints : List PrivateEndpoint) : List PrivateEndpoint :=
  if has endpoint.name endpoints then endpoints else endpoints ++ [endpoint]

/-- Removes the first endpoint with the name. -/
def removeByName (name : String) (endpoints : List PrivateEndpoint) : List PrivateEndpoint :=
  endpoints.eraseP (·.name == name)

/-- The endpoints that lead into a resource group. -/
def leadingInto (subscription group : String) (endpoints : List PrivateEndpoint) :
    List PrivateEndpoint :=
  endpoints.filter (·.leadsInto subscription group)

end Endpoints

/-- The subnets of a cluster around the one that hosts its endpoints. -/
structure EndpointDirectory where
  identity : ClusterIdentity
  before : List Subnet
  subnet : Subnet
  after : List Subnet
  deriving DecidableEq

namespace EndpointDirectory

/-- The subnets around the first one for nodes. -/
def aroundNodes (identity : ClusterIdentity) : List Subnet → Option EndpointDirectory
  | [] => none
  | subnet :: rest =>
      if subnet.isForNodes then some ⟨identity, [], subnet, rest⟩
      else
        (aroundNodes identity rest).map fun directory =>
          { directory with before := subnet :: directory.before }

def ofSubnets (identity : ClusterIdentity) (subnets : List Subnet) :
    Except Error EndpointDirectory :=
  match aroundNodes identity subnets, subnets with
  | some directory, _ => .ok directory
  | none, first :: rest => .ok ⟨identity, [], first, rest⟩
  | none, [] => .error (.subnetsNotDeclared identity.name)

def ofCluster (cluster : Cluster) : Except Error EndpointDirectory :=
  match ClusterIdentity.ofCluster cluster with
  | .ok identity => ofSubnets identity cluster.subnets
  | .error error => .error error

def subnets (directory : EndpointDirectory) : List Subnet :=
  directory.before ++ directory.subnet :: directory.after

def endpoints (directory : EndpointDirectory) : List PrivateEndpoint :=
  directory.subnet.endpoints

def update (directory : EndpointDirectory)
    (change : List PrivateEndpoint → List PrivateEndpoint) : EndpointDirectory :=
  { directory with subnet.endpoints := change directory.subnet.endpoints }

/-- The address of an endpoint in the resource group of the cluster. -/
def resolve {World : Type} (directory : EndpointDirectory) (client? : Option (EndpointsClient World))
    (name : String) : Action World IpAddress :=
  match client? with
  | none =>
      .fail <| .invalidConfig <|
        "cannot resolve private endpoint " ++ name ++ " without a provider client"
  | some client => do
      let resource? ← client.lookup directory.identity.resourceGroup name
      match resource? with
      | none => .fail (.endpointNotFound name)
      | some resource => .ofExcept (resource.firstAddress name)

end EndpointDirectory

end ClusterLinks
