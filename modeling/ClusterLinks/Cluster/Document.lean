import ClusterLinks.Cluster
import ClusterLinks.Json.Shape

/-!
# Cluster documents

How clusters are read from JSON and written to it. A field with a default may be absent but not
`null`; an optional field may be either. Defaults that say nothing are left out on writing, and
entries that are not modelled are written back as they were read.
-/

namespace ClusterLinks

namespace ObjectReference

def nameField : Field String := .defaulted "name" .string ""
def spaceField : Field String := .defaulted "namespace" .string ""
def fieldNames : List String := ["name", "namespace"]

def read (document : Json) : Option ObjectReference := do
  let entries ← document.entries?
  let name ← nameField.of? entries
  let space ← spaceField.of? entries
  some { name, space, extra := Record.extra fieldNames entries }

def write (reference : ObjectReference) : Json :=
  Record.write [nameField.entry reference.name, spaceField.entry reference.space] reference.extra

def codec : Codec ObjectReference := ⟨read, write⟩

def shape : Shape := .record .keeping [("name", .any), ("namespace", .any)]

end ObjectReference

namespace PrivateLink

def nameField : Field String := .required "name" .string
def allowedField : Field (List String) := .omitted "allowedSubscriptions" (.list .string) []
def autoApprovedField : Field (List String) :=
  .omitted "autoApprovedSubscriptions" (.list .string) []
def fieldNames : List String := ["name", "allowedSubscriptions", "autoApprovedSubscriptions"]

def read (document : Json) : Option PrivateLink := do
  let entries ← document.entries?
  let name ← nameField.of? entries
  let allowedSubscriptions ← allowedField.of? entries
  let autoApprovedSubscriptions ← autoApprovedField.of? entries
  some
    { name, allowedSubscriptions, autoApprovedSubscriptions
      extra := Record.extra fieldNames entries }

def write (link : PrivateLink) : Json :=
  Record.write
    [nameField.entry link.name, allowedField.entry link.allowedSubscriptions,
      autoApprovedField.entry link.autoApprovedSubscriptions]
    link.extra

def codec : Codec PrivateLink := ⟨read, write⟩

def shape : Shape :=
  .record .keeping
    [("name", .any), ("allowedSubscriptions", .any), ("autoApprovedSubscriptions", .any)]

end PrivateLink

namespace LoadBalancer

def typeField : Field (Option String) := .optional "type" .string
def linksField : Field (List PrivateLink) := .omitted "privateLinks" (.list PrivateLink.codec) []
def fieldNames : List String := ["type", "privateLinks"]

def read (document : Json) : Option LoadBalancer := do
  let entries ← document.entries?
  let type ← typeField.of? entries
  let privateLinks ← linksField.of? entries
  some { type, privateLinks, extra := Record.extra fieldNames entries }

def write (loadBalancer : LoadBalancer) : Json :=
  Record.write
    [typeField.entry loadBalancer.type, linksField.entry loadBalancer.privateLinks]
    loadBalancer.extra

def codec : Codec LoadBalancer := ⟨read, write⟩

def shape : Shape := .record .keeping [("type", .any), ("privateLinks", .list PrivateLink.shape)]

end LoadBalancer

namespace EndpointConnection

def nameField : Field String := .defaulted "name" .string ""
def linkField : Field String := .defaulted "privateLinkServiceID" .string ""
def requestField : Field String := .omitted "requestMessage" .string ""
def fieldNames : List String := ["name", "privateLinkServiceID", "requestMessage"]

def read (document : Json) : Option EndpointConnection := do
  let entries ← document.entries?
  let name ← nameField.of? entries
  let privateLinkServiceId ← linkField.of? entries
  let requestMessage ← requestField.of? entries
  some { name, privateLinkServiceId, requestMessage, extra := Record.extra fieldNames entries }

def write (connection : EndpointConnection) : Json :=
  Record.write
    [nameField.entry connection.name, linkField.entry connection.privateLinkServiceId,
      requestField.entry connection.requestMessage]
    connection.extra

def codec : Codec EndpointConnection := ⟨read, write⟩

def shape : Shape :=
  .record .keeping [("name", .any), ("privateLinkServiceID", .any), ("requestMessage", .any)]

end EndpointConnection

namespace PrivateEndpoint

def nameField : Field String := .required "name" .string
def locationField : Field String := .omitted "location" .string ""
def connectionsField : Field (List EndpointConnection) :=
  .omitted "privateLinkServiceConnections" (.list EndpointConnection.codec) []
def approvalField : Field Bool := .omitted "manualApproval" .bool false
def fieldNames : List String :=
  ["name", "location", "privateLinkServiceConnections", "manualApproval"]

def read (document : Json) : Option PrivateEndpoint := do
  let entries ← document.entries?
  let name ← nameField.of? entries
  let location ← locationField.of? entries
  let connections ← connectionsField.of? entries
  let manualApproval ← approvalField.of? entries
  some { name, location, connections, manualApproval, extra := Record.extra fieldNames entries }

def write (endpoint : PrivateEndpoint) : Json :=
  Record.write
    [nameField.entry endpoint.name, locationField.entry endpoint.location,
      connectionsField.entry endpoint.connections, approvalField.entry endpoint.manualApproval]
    endpoint.extra

def codec : Codec PrivateEndpoint := ⟨read, write⟩

def shape : Shape :=
  .record .keeping
    [("name", .any), ("location", .any),
      ("privateLinkServiceConnections", .list EndpointConnection.shape), ("manualApproval", .any)]

end PrivateEndpoint

namespace Subnet

def nameField : Field String := .defaulted "name" .string ""
def roleField : Field (Option String) := .optional "role" .string
def endpointsField : Field (List PrivateEndpoint) :=
  .omitted "privateEndpoints" (.list PrivateEndpoint.codec) []
def fieldNames : List String := ["name", "role", "privateEndpoints"]

def read (document : Json) : Option Subnet := do
  let entries ← document.entries?
  let name ← nameField.of? entries
  let role ← roleField.of? entries
  let endpoints ← endpointsField.of? entries
  some { name, role, endpoints, extra := Record.extra fieldNames entries }

def write (subnet : Subnet) : Json :=
  Record.write
    [nameField.entry subnet.name, roleField.entry subnet.role,
      endpointsField.entry subnet.endpoints]
    subnet.extra

def codec : Codec Subnet := ⟨read, write⟩

def shape : Shape :=
  .record .keeping
    [("name", .any), ("role", .any), ("privateEndpoints", .list PrivateEndpoint.shape)]

end Subnet

namespace NetworkSpec

def loadBalancerField : Field (Option LoadBalancer) := .optional "apiServerLB" LoadBalancer.codec
def subnetsField : Field (List Subnet) := .omitted "subnets" (.list Subnet.codec) []
def fieldNames : List String := ["apiServerLB", "subnets"]

def read (document : Json) : Option NetworkSpec := do
  let entries ← document.entries?
  let apiServerLoadBalancer ← loadBalancerField.of? entries
  let subnets ← subnetsField.of? entries
  some { apiServerLoadBalancer, subnets, extra := Record.extra fieldNames entries }

def write (network : NetworkSpec) : Json :=
  Record.write
    [loadBalancerField.entry network.apiServerLoadBalancer, subnetsField.entry network.subnets]
    network.extra

def codec : Codec NetworkSpec := ⟨read, write⟩

def shape : Shape :=
  .record .keeping [("apiServerLB", LoadBalancer.shape), ("subnets", .list Subnet.shape)]

end NetworkSpec

namespace ClusterSpec

def subscriptionField : Field String := .defaulted "subscriptionID" .string ""
def locationField : Field String := .defaulted "location" .string ""
def resourceGroupField : Field String := .defaulted "resourceGroup" .string ""
def identityField : Field (Option ObjectReference) := .optional "identityRef" ObjectReference.codec
def networkField : Field NetworkSpec := .defaulted "networkSpec" NetworkSpec.codec {}
def fieldNames : List String :=
  ["subscriptionID", "location", "resourceGroup", "identityRef", "networkSpec"]

def read (document : Json) : Option ClusterSpec := do
  let entries ← document.entries?
  let subscriptionId ← subscriptionField.of? entries
  let location ← locationField.of? entries
  let resourceGroup ← resourceGroupField.of? entries
  let identityRef ← identityField.of? entries
  let network ← networkField.of? entries
  some
    { subscriptionId, location, resourceGroup, identityRef, network
      extra := Record.extra fieldNames entries }

def write (spec : ClusterSpec) : Json :=
  Record.write
    [subscriptionField.entry spec.subscriptionId, locationField.entry spec.location,
      resourceGroupField.entry spec.resourceGroup, identityField.entry spec.identityRef,
      networkField.entry spec.network]
    spec.extra

def codec : Codec ClusterSpec := ⟨read, write⟩

def shape : Shape :=
  .record .keeping
    [("subscriptionID", .any), ("location", .any), ("resourceGroup", .any),
      ("identityRef", ObjectReference.shape), ("networkSpec", NetworkSpec.shape)]

end ClusterSpec

namespace ConditionStatus

def ofText : String → ConditionStatus
  | "True" => .true
  | "False" => .false
  | _ => .unknown

def toText : ConditionStatus → String
  | .true => "True"
  | .false => "False"
  | .unknown => "Unknown"

/-- A status is text, or an object that holds `null` under that text. -/
def read : Json → Option ConditionStatus
  | .string text => some (ofText text)
  | .object [(text, .null)] => some (ofText text)
  | _ => none

def codec : Codec ConditionStatus := ⟨read, fun status => .string status.toText⟩

end ConditionStatus

namespace Condition

def typeField : Field String := .required "type" .string
def statusField : Field ConditionStatus := .defaulted "status" ConditionStatus.codec .unknown
def reasonField : Field (Option String) := .optional "reason" .string
def messageField : Field (Option String) := .optional "message" .string
def fieldNames : List String := ["type", "status", "reason", "message"]

def read (document : Json) : Option Condition := do
  let entries ← document.entries?
  let type ← typeField.of? entries
  let status ← statusField.of? entries
  let reason ← reasonField.of? entries
  let message ← messageField.of? entries
  some { type, status, reason, message, extra := Record.extra fieldNames entries }

def write (condition : Condition) : Json :=
  Record.write
    [typeField.entry condition.type, statusField.entry condition.status,
      reasonField.entry condition.reason, messageField.entry condition.message]
    condition.extra

def codec : Codec Condition := ⟨read, write⟩

def shape : Shape :=
  .record .keeping [("type", .any), ("status", .choice), ("reason", .any), ("message", .any)]

end Condition

namespace ClusterStatus

def conditionsField : Field (List Condition) := .omitted "conditions" (.list Condition.codec) []
def fieldNames : List String := ["conditions"]

def read (document : Json) : Option ClusterStatus := do
  let entries ← document.entries?
  let conditions ← conditionsField.of? entries
  some { conditions, extra := Record.extra fieldNames entries }

def write (status : ClusterStatus) : Json :=
  Record.write [conditionsField.entry status.conditions] status.extra

def codec : Codec ClusterStatus := ⟨read, write⟩

def shape : Shape := .record .keeping [("conditions", .list Condition.shape)]

end ClusterStatus

namespace Timestamp

def codec : Codec Timestamp where
  read document := document.string?.bind ofText?
  write timestamp := .string timestamp.toText

end Timestamp

namespace Metadata

def nameField : Field (Option String) := .optional "name" .string
def generateNameField : Field (Option String) := .optional "generateName" .string
def spaceField : Field (Option String) := .optional "namespace" .string
def annotationsField : Field (Option (Dictionary String)) :=
  .optional "annotations" (.dictionary .string)
def labelsField : Field (Option (Dictionary String)) := .optional "labels" (.dictionary .string)
def finalizersField : Field (Option (List String)) := .optional "finalizers" (.list .string)
def resourceVersionField : Field (Option String) := .optional "resourceVersion" .string
def uidField : Field (Option String) := .optional "uid" .string
def generationField : Field (Option Int) :=
  .optional "generation" (.integer Int64.minValue.toInt Int64.maxValue.toInt)
def deletionTimestampField : Field (Option Timestamp) :=
  .optional "deletionTimestamp" Timestamp.codec

def read (document : Json) : Option Metadata := do
  let entries ← document.entries?
  let name ← nameField.of? entries
  let generateName ← generateNameField.of? entries
  let space ← spaceField.of? entries
  let annotations ← annotationsField.of? entries
  let labels ← labelsField.of? entries
  let finalizers ← finalizersField.of? entries
  let resourceVersion ← resourceVersionField.of? entries
  let uid ← uidField.of? entries
  let generation ← generationField.of? entries
  let deletionTimestamp ← deletionTimestampField.of? entries
  some
    { name, generateName, space, annotations, labels, finalizers, resourceVersion, uid,
      generation, deletionTimestamp }

def write (metadata : Metadata) : Json :=
  Record.write
    [nameField.entry metadata.name, generateNameField.entry metadata.generateName,
      spaceField.entry metadata.space, annotationsField.entry metadata.annotations,
      labelsField.entry metadata.labels, finalizersField.entry metadata.finalizers,
      resourceVersionField.entry metadata.resourceVersion, uidField.entry metadata.uid,
      generationField.entry metadata.generation,
      deletionTimestampField.entry metadata.deletionTimestamp]
    ∅

def codec : Codec Metadata := ⟨read, write⟩

def textsShape : Shape := .dictionary (.accepted fun value => value.string?.isSome)

def shape : Shape :=
  .record .overriding
    [nameField.checked, generateNameField.checked, spaceField.checked,
      ("annotations", textsShape), ("labels", textsShape), finalizersField.checked,
      resourceVersionField.checked, uidField.checked, generationField.checked,
      deletionTimestampField.checked]

end Metadata

namespace Cluster

def apiVersion : String := "infrastructure.cluster.x-k8s.io/v1beta1"
def kind : String := "AzureCluster"

def metadataField : Field Metadata := .required "metadata" Metadata.codec
def specField : Field ClusterSpec := .required "spec" ClusterSpec.codec
def statusField : Field (Option ClusterStatus) := .optional "status" ClusterStatus.codec
def fieldNames : List String := ["metadata", "spec", "status"]

def read (document : Json) : Option Cluster := do
  let entries ← Record.entriesOfAll? fieldNames document
  let metadata ← metadataField.of? entries
  let spec ← specField.of? entries
  let status ← statusField.of? entries
  some { metadata, spec, status }

def write (cluster : Cluster) : Json :=
  Record.write
    [("apiVersion", some (.string apiVersion)), ("kind", some (.string kind)),
      metadataField.entry cluster.metadata, specField.entry cluster.spec,
      statusField.entry cluster.status]
    ∅

def codec : Codec Cluster := ⟨read, write⟩

def reader : Reader Cluster where
  read := read
  shape :=
    .record .ignoring
      [("metadata", Metadata.shape), ("spec", ClusterSpec.shape), ("status", ClusterStatus.shape)]

end Cluster

end ClusterLinks
