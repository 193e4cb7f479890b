import ClusterLinks.Http.Message

/-!
# A peer with prepared answers

Every request takes the next answer, whatever it asks for. A peer that is not listening gets to
see nothing, and of a request that is to be encrypted it sees only where it wants to go.
-/

namespace ClusterLinks.Http

/-- What a peer gets to see. -/
inductive Sighting where
  | request (request : Request)
  /-- A tunnel that an encrypted request asks for. -/
  | tunnel (host : String)
  deriving DecidableEq

structure Peer where
  isListening : Bool := true
  /-- What is left to answer; `none` closes the connection. -/
  answers : List (Option Reply) := []
  sightings : List Sighting := []
  deriving DecidableEq

namespace Peer

/-- The answer when no prepared one is left. -/
def exhausted : Reply := ⟨500, .text "exhausted"⟩

def see (sighting : Sighting) (peer : Peer) : Peer :=
  { peer with sightings := peer.sightings ++ [sighting] }

def handle (request : Request) (peer : Peer) : Option Reply × Peer :=
  if !peer.isListening then (none, peer)
  else if request.url.scheme = "https" then (none, peer.see (.tunnel (request.url.host.getD "")))
  else
    let seen := peer.see (.request request)
    match peer.answers with
    | answer :: rest => (answer, { seen with answers := rest })
    | [] => (some exhausted, seen)

end Peer

end ClusterLinks.Http
