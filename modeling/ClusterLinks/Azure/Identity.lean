import ClusterLinks.Cluster.Document

/-!
# Identity documents

How a cluster authenticates against Azure, as declared in a document that the cluster refers to.
-/

namespace ClusterLinks

inductive IdentityType where
  | userAssignedMsi
  | manualServicePrincipal
  | workloadIdentity
  | other (name : String)
  deriving DecidableEq

namespace IdentityType

/-- The types that the operator can authenticate with. -/
def known? : String → Option IdentityType
  | "UserAssignedMSI" => some .userAssignedMsi
  | "ManualServicePrincipal" => some .manualServicePrincipal
  | "WorkloadIdentity" => some .workloadIdentity
  | _ => none

def ofText (text : String) : IdentityType :=
  (known? text).getD (.other text)

def toText : IdentityType → String
  | userAssignedMsi => "UserAssignedMSI"
  | manualServicePrincipal => "ManualServicePrincipal"
  | workloadIdentity => "WorkloadIdentity"
  | other name => name

/-- A type is text, or an object that holds `null` under the name of a known type. -/
def read : Json → Option IdentityType
  | .string text => some (ofText text)
  | .object [(text, .null)] => known? text
  | _ => none

def codec : Codec IdentityType := ⟨read, fun type => .string type.toText⟩

end IdentityType

structure SecretReference where
  name : String := ""
  space : String := ""
  deriving DecidableEq

namespace SecretReference

def nameField : Field String := .defaulted "name" .string ""
def spaceField : Field String := .defaulted "namespace" .string ""
def fieldNames : List String := ["name", "namespace"]

def read (document : Json) : Option SecretReference := do
  let entries ← Record.entriesOf? fieldNames document
  let name ← nameField.of? entries
  let space ← spaceField.of? entries
  some { name, space }

def write (reference : SecretReference) : Json :=
  Record.write [nameField.entry reference.name, spaceField.entry reference.space] ∅

def codec : Codec SecretReference := ⟨read, write⟩

def shape : Shape := .record .ignoring [("name", .any), ("namespace", .any)]

end SecretReference

structure IdentitySpec where
  type : IdentityType
  clientId : String := ""
  tenantId : String := ""
  clientSecret : Option SecretReference := none
  extra : Extra := ∅
  deriving DecidableEq

namespace IdentitySpec

def typeField : Field IdentityType := .required "type" IdentityType.codec
def clientField : Field String := .defaulted "clientID" .string ""
def tenantField : Field String := .defaulted "tenantID" .string ""
def secretField : Field (Option SecretReference) := .optional "clientSecret" SecretReference.codec
def fieldNames : List String := ["type", "clientID", "tenantID", "clientSecret"]

def read (document : Json) : Option IdentitySpec := do
  let entries ← document.entries?
  let type ← typeField.of? entries
  let clientId ← clientField.of? entries
  let tenantId ← tenantField.of? entries
  let clientSecret ← secretField.of? entries
  some { type, clientId, tenantId, clientSecret, extra := Record.extra fieldNames entries }

def write (spec : IdentitySpec) : Json :=
  Record.write
    [typeField.entry spec.type, clientField.entry spec.clientId, tenantField.entry spec.tenantId,
      secretField.entry spec.clientSecret]
    spec.extra

def codec : Codec IdentitySpec := ⟨read, write⟩

def shape : Shape :=
  .record .keeping
    [("type", .choice), ("clientID", .any), ("tenantID", .any),
      ("clientSecret", SecretReference.shape)]

end IdentitySpec

/-- A declared identity. -/
structure AzureIdentity where
  metadata : Metadata
  spec : IdentitySpec
  deriving DecidableEq

namespace AzureIdentity

def kind : String := "AzureClusterIdentity"

def metadataField : Field Metadata := .required "metadata" Metadata.codec
def specField : Field IdentitySpec := .required "spec" IdentitySpec.codec
def fieldNames : List String := ["metadata", "spec"]

def read (document : Json) : Option AzureIdentity := do
  let entries ← Record.entriesOfAll? fieldNames document
  let metadata ← metadataField.of? entries
  let spec ← specField.of? entries
  some { metadata, spec }

def write (identity : AzureIdentity) : Json :=
  Record.write
    [("apiVersion", some (.string Cluster.apiVersion)), ("kind", some (.string kind)),
      metadataField.entry identity.metadata, specField.entry identity.spec]
    ∅

def codec : Codec AzureIdentity := ⟨read, write⟩

def reader : Reader AzureIdentity where
  read := read
  shape := .record .ignoring [("metadata", Metadata.shape), ("spec", IdentitySpec.shape)]

end AzureIdentity

end ClusterLinks
