import ClusterLinks.Http.Peer
import ClusterLinks.Kubernetes.Server
import ClusterLinks.Surroundings

/-!
# Rehearsals with an API server

A world with an API server, a peer for HTTP, files and a clock that stands still. Requests to
the API server are written down in order, and some of them get a prepared answer that leaves the
server alone.
-/

namespace ClusterLinks

/-- Something that was sent. -/
inductive CloudEvent where
  | kubernetes (request : ApiRequest)
  | http (sighting : Http.Sighting)
  deriving DecidableEq

structure CloudWorld where
  server : ApiServer := {}
  /-- The requests to the API server that get a prepared answer, by number. -/
  faults : List (Nat × Http.Reply) := []
  /-- How many requests the API server has got. -/
  requests : Nat := 0
  peer : Http.Peer := {}
  /-- The files that exist, by path. -/
  files : Dictionary String := ∅
  clock : Int := 0
  events : List CloudEvent := []

namespace CloudWorld

/-- The answer that is prepared for a request to the API server. -/
def faultAt? (world : CloudWorld) (number : Nat) : Option Http.Reply :=
  (world.faults.find? (·.1 = number)).map (·.2)

/-- Sends a request to the API server. -/
def request (request : ApiRequest) (world : CloudWorld) : Http.Reply × CloudWorld :=
  let asked :=
    { world with
      requests := world.requests + 1
      events := world.events ++ [.kubernetes request] }
  match world.faultAt? world.requests with
  | some reply => (reply, asked)
  | none =>
      let (reply, server) := world.server.handle request
      (reply, { asked with server })

def connection : ApiConnection CloudWorld where
  send sent := .step (request sent)

/-- Sends a request to the peer. -/
def visit (request : Http.Request) (world : CloudWorld) : Option Http.Reply × CloudWorld :=
  let (reply, peer) := world.peer.handle request
  let news := peer.sightings.drop world.peer.sightings.length
  (reply, { world with peer, events := world.events ++ news.map .http })

def surroundings : Surroundings CloudWorld where
  send request := .step (visit request)
  now world := world.clock
  readFile path world :=
    match world.files.get? path with
    | some text => .ok text
    | none => .error "No such file or directory (os error 2)"

end CloudWorld

end ClusterLinks
