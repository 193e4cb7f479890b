import ClusterLinks.Controller
import ClusterLinks.Endpoint.Table
import ClusterLinks.Store.Memory

/-!
# Rehearsals with clusters in memory

A world in which everything is laid down beforehand: which clusters there are, which calls of
the store fail, which clients cannot be made and what look-ups find. What is asked for is
written down in order.
-/

namespace ClusterLinks

/-- Something that was asked for. -/
inductive MemoryEvent where
  | store (call : StoreCall)
  | client (cluster : ObjectKey)
  | lookup (resourceGroup name : String)
  deriving DecidableEq

structure MemoryWorld where
  clusters : ClusterMap := {}
  /-- The store calls that fail, by number. A call that fails does nothing. -/
  faults : List (Nat × Error) := []
  /-- How many store calls there were. -/
  calls : Nat := 0
  endpoints : EndpointTable := {}
  /-- The clusters for which no client can be made. -/
  refusals : Dictionary Error := ∅
  events : List MemoryEvent := []

namespace MemoryWorld

def record (event : MemoryEvent) (world : MemoryWorld) : MemoryWorld :=
  { world with events := world.events ++ [event] }

/-- The failure that is laid down for a store call. -/
def faultAt? (world : MemoryWorld) (number : Nat) : Option Error :=
  (world.faults.find? (·.1 = number)).map (·.2)

/-- Writes a store call down and lets it fail if it is to. -/
def announce (call : StoreCall) : Action MemoryWorld Unit :=
  fun world =>
    let announced := { world.record (.store call) with calls := world.calls + 1 }
    match world.faultAt? world.calls with
    | some error => (.error error, announced)
    | none => (.ok (), announced)

def store : ClusterStore MemoryWorld :=
  (ClusterStore.memory.within (·.clusters) fun clusters world =>
    { world with clusters }).announcing announce

def client : EndpointsClient MemoryWorld where
  lookup resourceGroup name world :=
    let (finding, endpoints) := world.endpoints.next resourceGroup name
    (finding, { world.record (.lookup resourceGroup name) with endpoints })

def clients : ClientFactory MemoryWorld where
  client cluster world :=
    let asked := world.record (.client cluster.key)
    match world.refusals.get? cluster.key.toText with
    | some error => (.error error, asked)
    | none => (.ok client, asked)

end MemoryWorld

end ClusterLinks
