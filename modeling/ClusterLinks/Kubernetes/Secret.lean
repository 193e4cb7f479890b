import ClusterLinks.Cluster.Document
import ClusterLinks.Text.Base64

/-!
# Secrets

The part of a secret that the operator reads. The values are bytes, written as base64.
-/

namespace ClusterLinks

structure Secret where
  data : Option (Dictionary (List UInt8)) := none
  deriving DecidableEq

namespace Secret

/-- A value is base64, and `null` stands for an empty one. -/
def readValue : Json → Option (List UInt8)
  | .null => some []
  | .string text => Base64.decode? text.toList
  | _ => none

/-- The values of a secret are only ever read, so nothing is written for them. -/
def valueCodec : Codec (List UInt8) := ⟨readValue, fun _ => .null⟩

def dataField : Field (Option (Dictionary (List UInt8))) :=
  .optional "data" (.dictionary valueCodec)
def metadataField : Field (Option Metadata) := .optional "metadata" Metadata.codec
def immutableField : Field (Option Bool) := .optional "immutable" .bool
def typeField : Field (Option String) := .optional "type" .string
def textsField : Field (Option (Dictionary String)) :=
  .optional "stringData" (.dictionary .string)

/-- An entry that can only say one thing. -/
def fixedField (name expected : String) : Field Unit where
  name := name
  read
    | none => some ()
    | some value => if value = .string expected then some () else none
  write _ := some (.string expected)

def versionField : Field Unit := fixedField "apiVersion" "v1"
def kindField : Field Unit := fixedField "kind" "Secret"

/-- Only the values are used, but everything else has to be well-formed too. -/
def read (document : Json) : Option Secret := do
  let entries ← document.entries?
  let data ← dataField.of? entries
  let _ ← metadataField.of? entries
  let _ ← immutableField.of? entries
  let _ ← typeField.of? entries
  let _ ← textsField.of? entries
  let _ ← versionField.of? entries
  let _ ← kindField.of? entries
  some { data }

def reader : Reader Secret where
  read := read
  shape :=
    .record .overriding
      [("data", .dictionary (.accepted fun value => (readValue value).isSome)),
        ("metadata", Metadata.shape), immutableField.checked, typeField.checked,
        ("stringData", Metadata.textsShape), versionField.checked, kindField.checked]

/-- The value under a name. -/
def value? (secret : Secret) (name : String) : Option (List UInt8) :=
  secret.data.bind (·.get? name)

end Secret

end ClusterLinks
