import ClusterLinks.Kubernetes.Request

/-!
# Reading the answers of the Kubernetes API

A status from 400 to 599 is a refusal. The code and the reason of a refusal are those that the
body gives, whatever the status of the answer is; a body that does not describe a refusal leaves
only the status.
-/

namespace ClusterLinks

/-- The description of a refusal. -/
structure Refusal where
  code : Nat
  reason : String
  message : String
  deriving DecidableEq

namespace Refusal

def statusField : Field String := .required "status" .string
def messageField : Field String := .defaulted "message" .string ""
def reasonField : Field String := .defaulted "reason" .string ""
def codeField : Field Int := .required "code" (.integer 0 65535)
def fieldNames : List String := ["status", "message", "reason", "code"]

def read (document : Json) : Option Refusal := do
  let entries ← Record.entriesOf? fieldNames document
  let _ ← statusField.of? entries
  let message ← messageField.of? entries
  let reason ← reasonField.of? entries
  let code ← codeField.of? entries
  some { code := code.toNat, reason, message }

def reader : Reader Refusal where
  read := read
  shape := .record .ignoring (fieldNames.map fun name => (name, .any))

end Refusal

namespace ApiConnection

variable {World α : Type}

/-- What a refused request comes to. -/
def refusal (reply : Http.Reply) : KubernetesError :=
  match reply.body.read? Refusal.reader with
  | some refusal => .refused refusal.code refusal.reason refusal.message
  | none => .refused reply.status "Failed to parse error data" reply.body.toText

/-- The object in an answer. -/
def readReply (reader : Reader α) (reply : Http.Reply) : Except Error α :=
  if 400 ≤ reply.status ∧ reply.status < 600 then .error (.kubernetes (refusal reply))
  else
    match reply.body.read? reader with
    | some value => .ok value
    | none => .error (.kubernetes (.failed "the answer does not hold the wanted object"))

/-- Sends a request, if one can be made, and reads the object in the answer. -/
def ask (connection : ApiConnection World) (reader : Reader α) (request? : Option ApiRequest) :
    Action World α := do
  let request ← Action.ofOption (.kubernetes (.failed "no request can be made for the object"))
    request?
  let reply ← connection.send request
  Action.ofExcept (readReply reader reply)

def get (connection : ApiConnection World) (reader : Reader α) (kind : ObjectKind)
    (key : ObjectKey) : Action World α :=
  connection.ask reader (ApiRequest.get? kind key)

/-- Changes an object; the answer is the object as it is then. -/
def mergePatch (connection : ApiConnection World) (reader : Reader α) (kind : ObjectKind)
    (key : ObjectKey) (patch : Json) : Action World α :=
  connection.ask reader (ApiRequest.mergePatch? kind key Conventions.fieldManager patch)

/-- An object that may be missing: `isMissing` says which failures mean that it is. -/
def find? (connection : ApiConnection World) (isMissing : KubernetesError → Bool)
    (reader : Reader α) (kind : ObjectKind) (key : ObjectKey) : Action World (Option α) := do
  let result ← (connection.get reader kind key).attempt
  match result with
  | .ok value => pure (some value)
  | .error (.kubernetes cause) =>
      if isMissing cause then pure none else Action.fail (.kubernetes cause)
  | .error error => Action.fail error

end ApiConnection

namespace KubernetesError

/-- Whether the code of a refusal says that there is no such object. -/
def hasMissingCode (error : KubernetesError) : Bool :=
  error.code? = some 404

/-- Whether the reason of a refusal says that there is no such object. -/
def hasMissingReason (error : KubernetesError) : Bool :=
  error.reason? = some "NotFound"

end KubernetesError

end ClusterLinks
