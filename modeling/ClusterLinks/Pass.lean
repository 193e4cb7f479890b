import ClusterLinks.Endpoint.Directory
import ClusterLinks.Endpoint.Wanted
import ClusterLinks.Link.Directory

/-!
# Passes

A pass brings the endpoints of a host in line with the links of an owner. It never waits: what
it got done before a failure stays in its state, and the next pass finds it by name.
-/

namespace ClusterLinks

/-- The two clusters of a pass and the world around them. -/
structure PassState (World : Type) where
  host : EndpointDirectory
  owner : LinkDirectory
  world : World

abbrev Pass (World α : Type) : Type :=
  Action (PassState World) α

namespace Pass

variable {World : Type}

def updateHost (change : List PrivateEndpoint → List PrivateEndpoint) : Pass World Unit :=
  .modify fun state => { state with host := state.host.update change }

def record (direction : Direction) (address : IpAddress) : Pass World Unit :=
  .modify fun state => { state with owner := state.owner.record direction address }

/-- The address of an endpoint of the host. -/
def resolve (client? : Option (EndpointsClient World)) (name : String) : Pass World IpAddress :=
  fun state =>
    let (result, world) := state.host.resolve client? name state.world
    (result, { state with world })

/-- Makes sure that an endpoint exists and records its address. -/
def connect (client? : Option (EndpointsClient World)) (direction : Direction)
    (endpoint : PrivateEndpoint) : Pass World Unit := do
  updateHost (Endpoints.add endpoint)
  let address ← resolve client? endpoint.name
  record direction address

/-- Connects the endpoints one after the other, up to the first that has no address yet. -/
def connectAll (client? : Option (EndpointsClient World)) (direction : Direction) :
    List PrivateEndpoint → Pass World Unit
  | [] => pure ()
  | endpoint :: rest => do
      connect client? direction endpoint
      connectAll client? direction rest

/-- Whether an endpoint leads to a declared link of the owner. -/
def isUsed (owner : LinkDirectory) (endpoint : PrivateEndpoint) : Bool :=
  endpoint.connections.any fun connection => (owner.find? connection.privateLinkServiceId).isSome

/-- The endpoints that lead to the owner but to none of its links. -/
def unused (owner : LinkDirectory) (endpoints : List PrivateEndpoint) : List PrivateEndpoint :=
  (Endpoints.leadingInto owner.identity.subscriptionId owner.identity.resourceGroup
    endpoints).filter (!isUsed owner ·)

/-- Removes the names of the unused endpoints, one after the other. -/
def removeUnused (owner : LinkDirectory) (endpoints : List PrivateEndpoint) :
    List PrivateEndpoint :=
  (unused owner endpoints).foldl (fun kept endpoint => Endpoints.removeByName endpoint.name kept)
    endpoints

/-- What keeps a host from connecting to the links of an owner. -/
def obstacle? (host : ClusterIdentity) (owner : LinkDirectory) : Option Error :=
  let allowed := owner.allowing host.subscriptionId
  if allowed.isEmpty && !owner.links.isEmpty then
    some (.subscriptionNotAuthorized host.name host.subscriptionId owner.identity.name)
  else if !allowed.isEmpty && !owner.isReady then some (.linksNotReady owner.identity.name)
  else none

/-- The endpoints that a host should have for the links of an owner. -/
def wanted (host : ClusterIdentity) (owner : LinkDirectory) : List PrivateEndpoint :=
  (owner.allowing host.subscriptionId).map (PrivateEndpoint.forApiServer host owner.identity ·)

/-- Connects the host to every link that allows it and removes the endpoints of links that are
gone. -/
def reconcile (client? : Option (EndpointsClient World)) : Pass World Unit := do
  let host ← Action.inspect (·.host.identity)
  let owner ← Action.inspect (·.owner)
  match obstacle? host owner with
  | some error => Action.fail error
  | none => do
      connectAll client? .toApiServer (wanted host owner)
      updateHost (removeUnused owner)

/-- Connects the host to one link and records the address for the way to the ingress. -/
def reconcileIngress (client? : Option (EndpointsClient World)) (endpoint : PrivateEndpoint) :
    Pass World Unit :=
  connect client? .toIngress endpoint

/-- The endpoints without those that are named for links of the owner that allow the host. -/
def removeWanted (host : ClusterIdentity) (owner : LinkDirectory)
    (endpoints : List PrivateEndpoint) : List PrivateEndpoint :=
  (owner.allowing host.subscriptionId).foldl
    (fun kept link => Endpoints.removeByName (PrivateEndpoint.nameFor link.name) kept) endpoints

/-- Takes back what the links of the owner call for, whether they are ready or not. -/
def delete : Pass World Unit := do
  let host ← Action.inspect (·.host.identity)
  let owner ← Action.inspect (·.owner)
  updateHost (removeWanted host owner)

/-- Runs a pass between two clusters. Endpoints are written back to the host and addresses to
the owner, also when the pass fails. -/
def run (pass : Pass World Unit) (host owner : Cluster) (world : World) :
    Except Error Unit × Cluster × Cluster × World :=
  match EndpointDirectory.ofCluster host, LinkDirectory.ofCluster owner with
  | .error error, _ => (.error error, host, owner, world)
  | .ok _, .error error => (.error error, host, owner, world)
  | .ok endpoints, .ok links =>
      let (result, state) := pass ⟨endpoints, links, world⟩
      (result, host.withSubnets state.host.subnets, owner.withAnnotations state.owner.annotations,
        state.world)

/-- Runs a pass in which one cluster is host and owner. -/
def runAlone (pass : Pass World Unit) (cluster : Cluster) (world : World) :
    Except Error Unit × Cluster × World :=
  match EndpointDirectory.ofCluster cluster, LinkDirectory.ofCluster cluster with
  | .error error, _ => (.error error, cluster, world)
  | .ok _, .error error => (.error error, cluster, world)
  | .ok endpoints, .ok links =>
      let (result, state) := pass ⟨endpoints, links, world⟩
      let changed := cluster.withSubnets state.host.subnets
      (result, changed.withAnnotations state.owner.annotations, state.world)

end Pass

end ClusterLinks
