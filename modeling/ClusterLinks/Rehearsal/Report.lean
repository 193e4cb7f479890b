import ClusterLinks.Rehearsal.Cloud
import ClusterLinks.Rehearsal.Memory
import ClusterLinks.Store.Patch

/-!
# Reports

What happened in a rehearsal, as documents: failures, clusters as far as the operator changes
them, and what was asked for.
-/

namespace ClusterLinks.Report

def strings (texts : List String) : Json := .array (texts.map .string)

def textOrNull : Option String → Json
  | some text => .string text
  | none => .null

def numberOrNull : Option Nat → Json
  | some number => .integer number
  | none => .null

/-- What a failure is called. -/
def failureName : Error → String
  | .kubernetes _ => "Kube"
  | .invalidConfig _ => "InvalidConfig"
  | .subnetsNotDeclared _ => "SubnetsNotDeclared"
  | .subscriptionNotAuthorized _ _ _ => "SubscriptionNotAuthorized"
  | .unknownLoadBalancerType _ _ => "UnknownLoadBalancerType"
  | .linksNotReady _ => "LinksNotReady"
  | .endpointNotFound _ => "EndpointNotFound"
  | .networkInterfaceNotFound _ => "NetworkInterfaceNotFound"
  | .privateAddressNotAssigned _ => "PrivateAddressNotAssigned"
  | .provider _ _ => "Provider"
  | .credentials _ => "Credentials"
  | .serialization _ => "Serialization"
  | .clockOverflow => "ClockOverflow"

/-- The message of a failure, where the words are the operator's own, or its code. -/
def failureDetails (error : Error) : Entries Json :=
  match error with
  | .kubernetes cause => [("code", numberOrNull cause.code?)]
  | .provider _ status =>
      [("message", .string error.message), ("status", numberOrNull status)]
  | _ => [("message", .string error.message)]

def failure (error : Error) : Json :=
  .ofEntries <|
    [("error", .string (failureName error)), ("retryable", .bool error.isRetryable),
      ("cluster", textOrNull error.cluster?), ("endpoint", textOrNull error.endpoint?)] ++
      failureDetails error

/-- Annotations or none. -/
def annotations : Option (Dictionary String) → Json
  | some annotations => (Codec.dictionary .string).write annotations
  | none => .null

def subnets (subnets : List Subnet) : Json := .array (subnets.map Subnet.write)

/-- The part of a cluster that the operator changes. -/
def view (cluster : Cluster) : Json :=
  .ofEntries
    [("annotations", annotations cluster.metadata.annotations),
      ("finalizers", (cluster.metadata.finalizers.map strings).getD .null),
      ("subnets", subnets cluster.subnets)]

def views (map : ClusterMap) : Json :=
  .ofEntries (map.clusters.entries.map fun entry => (entry.1, view entry.2))

/-- What a look-up has found. -/
def lookup : Option EndpointResource → Json
  | none => .null
  | some resource =>
      .ofEntries
        [("name", textOrNull resource.name), ("id", textOrNull resource.id),
          ("addresses", strings resource.addresses)]

def storeCall (name : String) (key : ObjectKey) (more : Entries Json) : Json :=
  .ofEntries ([("store", .string name), ("key", .string key.toText)] ++ more)

def memoryEvent : MemoryEvent → Json
  | .store (.get key) => storeCall "get" key []
  | .store (.persist before after) =>
      storeCall "persist" after.key [("patch", (Patch.between? before after).getD .null)]
  | .store (.addFinalizer key finalizer) =>
      storeCall "add_finalizer" key [("finalizer", .string finalizer)]
  | .store (.removeFinalizer key finalizer) =>
      storeCall "remove_finalizer" key [("finalizer", .string finalizer)]
  | .client key => .object [("client", .string key.toText)]
  | .lookup resourceGroup name =>
      .object [("lookup", .string (EndpointTable.key resourceGroup name))]

def memoryLog (world : MemoryWorld) : Json := .array (world.events.map memoryEvent)

def sighting : Http.Sighting → Json
  | .tunnel host => .object [("http", .string ("CONNECT " ++ host ++ ":443"))]
  | .request request =>
      let headers := ["authorization", "metadata", "content-type"].filterMap fun name =>
        (request.header? name).map fun value => (name, Json.string value)
      .ofEntries <|
        [("http", .string (request.method.name ++ " " ++ request.url.target))] ++ headers ++
          (if request.body = "" then [] else [("body", .string request.body)])

def cloudEvent : CloudEvent → Json
  | .kubernetes (.get target) => .object [("kube", .string ("GET " ++ target.path))]
  | .kubernetes (.mergePatch target patch) =>
      .ofEntries
        [("kube", .string ("PATCH " ++ target.path)), ("query", strings target.queryParts),
          ("content_type", .string "application/merge-patch+json"), ("body", patch)]
  | .http seen => sighting seen

def cloudLog (world : CloudWorld) : Json := .array (world.events.map cloudEvent)

end ClusterLinks.Report
