import ClusterLinks.Cluster.Document
import ClusterLinks.Endpoint.Table
import ClusterLinks.Rehearsal.Cloud

/-!
# Scripts

A rehearsal is laid down in a document: failures by kind, findings of look-ups, prepared answers
and objects. An entry that is absent reads as empty text, an empty list or nothing at all.
-/

namespace ClusterLinks

/-- Why a script cannot be read. -/
inductive ScriptProblem where
  /-- An entry is missing, or nobody knows what it asks for. -/
  | unknown (entry : String)
  /-- A document in the script is not what it should be. -/
  | undecodable
  deriving DecidableEq

namespace Script

abbrev Reading (α : Type) := Except ScriptProblem α

def entry (script : Json) (name : String) : Json := (script.get? name).getD .null

def text? (script : Json) (name : String) : Option String := (entry script name).string?

def text (script : Json) (name : String) : String := (text? script name).getD ""

def number? (script : Json) (name : String) : Option Nat :=
  (entry script name).integer?.map (·.toNat)

def items (script : Json) (name : String) : List Json := ((entry script name).items?).getD []

def texts (script : Json) (name : String) : List String :=
  (items script name).map fun item => item.string?.getD ""

def entries (script : Json) (name : String) : Entries Json :=
  ((entry script name).entries?).getD []

/-- A document inside the script. -/
def document {α : Type} (read : Json → Option α) (value : Json) : Reading α :=
  match read value with
  | some value => .ok value
  | none => .error .undecodable

def cluster (script : Json) (name : String) : Reading Cluster :=
  document Cluster.read (entry script name)

/-- The key of an object. -/
def key (script : Json) (name : String) : ObjectKey :=
  let key := entry script name
  ⟨text key "namespace", text key "name"⟩

/-- What comes at which number. -/
def numbered {α : Type} (read : Json → Reading α) (script : Json) (name : String) :
    Reading (List (Nat × α)) :=
  (entries script name).filterMapM fun (number, value) =>
    match Decimal.unsigned? Decimal.max64 number with
    | some number => (read value).map fun value => some (number, value)
    | none => .ok none

/-- A failure, named by its kind. -/
def failure (script : Json) : Reading Error :=
  let message := text script "message"
  let cluster := text script "cluster"
  let endpoint := text script "endpoint"
  match text script "kind" with
  | "Kube" =>
      .ok <| .kubernetes <|
        .refused ((number? script "code").getD 500) (text script "reason") message
  | "InvalidConfig" => .ok (.invalidConfig message)
  | "SubnetsNotDeclared" => .ok (.subnetsNotDeclared cluster)
  | "SubscriptionNotAuthorized" =>
      .ok <| .subscriptionNotAuthorized (text script "management_cluster")
        (text script "subscription") (text script "workload_cluster")
  | "UnknownLoadBalancerType" => .ok (.unknownLoadBalancerType cluster (text script "lb_type"))
  | "LinksNotReady" => .ok (.linksNotReady cluster)
  | "EndpointNotFound" => .ok (.endpointNotFound endpoint)
  | "NetworkInterfaceNotFound" => .ok (.networkInterfaceNotFound endpoint)
  | "PrivateAddressNotAssigned" => .ok (.privateAddressNotAssigned endpoint)
  | "Provider" => .ok (.provider message (number? script "status"))
  | "Credentials" => .ok (.credentials message)
  | "Serialization" => .ok (.serialization message)
  | _ => .error (.unknown "kind")

/-- The provider document of an endpoint with these addresses on its interfaces. -/
def resourceWith (interfaces : List (List Json)) : Json :=
  let properties (name : String) (value : Json) : Json :=
    .object [("properties", .object [(name, value)])]
  let interface (addresses : List Json) : Json :=
    properties "ipConfigurations" (.array (addresses.map (properties "privateIPAddress")))
  properties "networkInterfaces" (.array (interfaces.map interface))

/-- A provider document: given as it is, by the addresses of its interfaces, or by one address. -/
def resource (script : Json) : Json :=
  match script.get? "resource", script.get? "interfaces" with
  | some resource, _ => resource
  | none, some interfaces =>
      resourceWith ((interfaces.items?.getD []).map fun list => list.items?.getD [])
  | none, none => resourceWith [[entry script "address"]]

/-- What a look-up comes to; `null` means that there is no such endpoint. -/
def finding (script : Json) : Reading Finding :=
  match script.get? "error" with
  | some script => (failure script).map .error
  | none =>
      if script = .null then .ok (.ok none)
      else
        match EndpointResource.read (resource script) with
        | some resource => .ok (.ok (some resource))
        | none => .ok (.error (.provider "undecodable resource" none))

/-- What look-ups find: one finding or a list of them for each endpoint. -/
def findings (script : Json) (name : String) : Reading (Dictionary (List Finding)) := do
  let lists ← (entries script name).mapM fun (endpoint, value) =>
    ((value.items?.getD [value]).mapM finding).map (endpoint, ·)
  .ok (.ofEntries lists)

/-- A prepared answer, with a document or a text in it. -/
def reply (script : Json) : Http.Reply where
  status := (number? script "status").getD 200
  body :=
    match script.get? "json" with
    | some document => .document document
    | none => .text (text script "text")

/-- A prepared answer, or none for a connection that is to be dropped. -/
def reply? (script : Json) : Option Http.Reply :=
  if (script.get? "drop").isSome then none else some (reply script)

def kind (name : String) : Reading ObjectKind :=
  match ObjectKind.ofName? name with
  | some kind => .ok kind
  | none => .error (.unknown "kind")

/-- Puts an object under the path that its kind and its metadata give. -/
def putObject (server : ApiServer) (value : Json) : Reading ApiServer :=
  (kind (text value "kind")).map fun kind => server.put kind (ApiServer.keyOf value) value

/-- A world with objects on its API server, prepared answers of that server by number, answers of
its peer in order, and files. -/
def cloud (script : Json) : Reading CloudWorld := do
  let server ← (items script "objects").foldlM putObject {}
  let faults ← numbered (fun value => .ok (reply value)) script "faults"
  let files := (entries script "files").filterMap fun (path, value) =>
    value.string?.map (path, ·)
  let peer : Http.Peer := { answers := (items script "http").map reply? }
  .ok { server, faults, peer, files := .ofEntries files }

end Script

end ClusterLinks
