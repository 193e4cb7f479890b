import ClusterLinks.Action
import ClusterLinks.Cluster
import ClusterLinks.Conventions
import ClusterLinks.Http.Message
import ClusterLinks.Net.RequestTarget

/-!
# Requests to the Kubernetes API

Objects are asked for and changed by path. A request without a target that HTTP allows is never
sent. Names are written into the target as they are, so a question mark in one begins the query
and a number sign ends the target.
-/

namespace ClusterLinks

/-- The kinds of objects that the operator deals with. -/
inductive ObjectKind where
  | cluster
  | identity
  | secret
  deriving DecidableEq

namespace ObjectKind

def name : ObjectKind → String
  | cluster => "AzureCluster"
  | identity => "AzureClusterIdentity"
  | secret => "Secret"

def ofName? : String → Option ObjectKind
  | "AzureCluster" => some .cluster
  | "AzureClusterIdentity" => some .identity
  | "Secret" => some .secret
  | _ => none

/-- Where the objects of a namespace are found. -/
def collection (space : String) : ObjectKind → String
  | cluster =>
      "/apis/infrastructure.cluster.x-k8s.io/v1beta1/namespaces/" ++ space ++ "/azureclusters"
  | identity =>
      "/apis/infrastructure.cluster.x-k8s.io/v1beta1/namespaces/" ++ space ++
        "/azureclusteridentities"
  | secret => "/api/v1/namespaces/" ++ space ++ "/secrets"

def path (kind : ObjectKind) (key : ObjectKey) : String :=
  kind.collection key.space ++ "/" ++ key.name

end ObjectKind

inductive ApiRequest where
  | get (target : RequestTarget)
  /-- Changes an object by a merge patch. -/
  | mergePatch (target : RequestTarget) (patch : Json)
  deriving DecidableEq

namespace ApiRequest

def target : ApiRequest → RequestTarget
  | get target => target
  | mergePatch target _ => target

def path (request : ApiRequest) : String :=
  request.target.path

/-- The target for an object, none if the object has no name or no target can hold it. -/
def target? (kind : ObjectKind) (key : ObjectKey) (query : String) : Option RequestTarget :=
  if key.name = "" then none else RequestTarget.ofText? (kind.path key ++ query)

/-- Asks for an object. -/
def get? (kind : ObjectKind) (key : ObjectKey) : Option ApiRequest :=
  (target? kind key "").map .get

/-- Changes an object in the name of a manager. -/
def mergePatch? (kind : ObjectKind) (key : ObjectKey) (manager : String) (patch : Json) :
    Option ApiRequest :=
  (target? kind key ("?&fieldManager=" ++ manager)).map (.mergePatch · patch)

end ApiRequest

/-- A way to the API server. -/
structure ApiConnection (World : Type) where
  send (request : ApiRequest) : Action World Http.Reply

/-- A way to the API server that leads through a larger world. -/
def ApiConnection.within {World Outer : Type} (part : Outer → World)
    (put : World → Outer → Outer) (connection : ApiConnection World) : ApiConnection Outer where
  send request := (connection.send request).within part put

end ClusterLinks
