import ClusterLinks.Azure.Credential
import ClusterLinks.Surroundings
import ClusterLinks.Text.Blank
import ClusterLinks.Text.Decimal

/-!
# Access tokens

A credential is exchanged for a token, and the token is kept until shortly before it expires. A
failed exchange leaves the token that is kept as it is.
-/

namespace ClusterLinks

/-- What the issuer of tokens answers. -/
structure TokenAnswer where
  token : String
  /-- Seconds from receipt to expiry. -/
  lifetime : Nat
  deriving DecidableEq

namespace TokenAnswer

/-- A lifetime is a number of 64 bits, or a text that means zero unless it holds one. -/
def readLifetime : Json → Option Nat
  | .null => some 0
  | .integer seconds =>
      if 0 ≤ seconds ∧ seconds ≤ Decimal.max64 then some seconds.toNat else none
  | .string text => some ((Decimal.unsigned? Decimal.max64 text).getD 0)
  | _ => none

def tokenField : Field String := .required "access_token" .string
def fieldNames : List String := ["access_token", "expires_in"]

def read (document : Json) : Option TokenAnswer := do
  let entries ← Record.entriesOf? fieldNames document
  let token ← tokenField.of? entries
  let lifetime ← readLifetime ((entries.get? "expires_in").getD .null)
  some { token, lifetime }

def reader : Reader TokenAnswer where
  read := read
  shape := .record .ignoring [("access_token", .any), ("expires_in", .any)]

end TokenAnswer

/-- A token and the time at which it expires. -/
structure CachedToken where
  token : String
  expiresAt : Int
  deriving DecidableEq

namespace CachedToken

/-- A token that expires within so many seconds is not used any more. -/
def margin : Nat := 300

/-- Whether the token can still be used at a time. -/
def isFresh (cached : CachedToken) (now : Int) : Except Error Bool := do
  let limit ← Clock.after now margin
  .ok (limit < cached.expiresAt)

end CachedToken

/-- A credential and the services that it is shown to. -/
structure Credential where
  kind : CredentialKind
  authorityHost : String := "https://login.microsoftonline.com"
  metadataHost : String := "http://169.254.169.254"
  resource : String := "https://management.azure.com/"
  deriving DecidableEq

/-- The token that a credential has at hand, and the world around it. -/
structure TokenState (World : Type) where
  cached : Option CachedToken
  world : World

namespace Credential

variable {World : Type}

def scope (credential : Credential) : String :=
  Text.withoutFinalSlashes credential.resource ++ "/.default"

/-- Where a tenant gives out tokens. -/
def tokenAddress (credential : Credential) (tenantId : String) : String :=
  Text.withoutFinalSlashes credential.authorityHost ++ "/" ++ tenantId ++ "/oauth2/v2.0/token"

/-- Where the machine gives out tokens. -/
def metadataAddress (credential : Credential) : String :=
  Text.withoutFinalSlashes credential.metadataHost ++ "/metadata/identity/oauth2/token"

/-- The request for a token; `assertion` is the text of the token file. -/
def request? (credential : Credential) (assertion : String) :
    Except Http.Problem Http.Request :=
  match credential.kind with
  | .managedIdentity clientId =>
      Http.Request.make? .get credential.metadataAddress
        [("api-version", "2018-02-01"), ("resource", credential.resource),
          ("client_id", clientId)]
        [("metadata", "true")] ""
  | .clientSecret tenantId clientId secret =>
      Http.Request.form? (credential.tokenAddress tenantId)
        [("grant_type", "client_credentials"), ("client_id", clientId),
          ("client_secret", secret), ("scope", credential.scope)]
  | .workloadIdentity tenantId clientId _ =>
      Http.Request.form? (credential.tokenAddress tenantId)
        [("grant_type", "client_credentials"), ("client_id", clientId),
          ("client_assertion_type", "urn:ietf:params:oauth:client-assertion-type:jwt-bearer"),
          ("client_assertion", Text.trim assertion), ("scope", credential.scope)]

/-- The text of the token file, for the credentials that have one. -/
def assertion (surroundings : Surroundings World) (credential : Credential) :
    Action World String :=
  match credential.kind with
  | .workloadIdentity _ _ path => do
      let text ← Action.inspect (surroundings.readFile path)
      match text with
      | .ok text => pure text
      | .error reason =>
          .fail <| .credentials <|
            "failed to read federated token file " ++ path ++ ": " ++ reason
  | _ => pure ""

/-- What an answer to the request means for a credential of this kind. -/
def readReply (kind : CredentialKind) : Except Http.Problem Http.Reply →
    Except Error TokenAnswer
  | .error problem =>
      .error (.credentials (kind.name ++ " token request failed: " ++ problem.message))
  | .ok reply =>
      if Http.Status.isSuccess reply.status then
        match reply.content.read? TokenAnswer.reader with
        | some answer => .ok answer
        | none =>
            .error <| .credentials <|
              "invalid " ++ kind.name ++ " token response: " ++ Http.Problem.unreadable.message
      else
        .error <| .credentials <|
          kind.name ++ " token request returned " ++ Http.Status.describe reply.status ++ ": " ++
            reply.content.toText

/-- Exchanges the credential for a token. -/
def fetch (surroundings : Surroundings World) (credential : Credential) :
    Action World TokenAnswer := do
  let assertion ← assertion surroundings credential
  let reply? ← surroundings.ask (credential.request? assertion)
  Action.ofExcept (readReply credential.kind reply?)

/-- An action on the world around a credential. -/
def outside {α : Type} (action : Action World α) : Action (TokenState World) α :=
  action.within (·.world) fun world state => { state with world }

/-- Whether the token at hand can be used now. -/
def usable? (surroundings : Surroundings World) : Action (TokenState World) (Option String) := do
  let cached? ← Action.inspect (·.cached)
  match cached? with
  | none => pure none
  | some cached => do
      let now ← outside (Action.inspect surroundings.now)
      let fresh ← Action.ofExcept (cached.isFresh now)
      pure (if fresh then some cached.token else none)

/-- A token that can be used now: the one at hand or else a new one. -/
def token (surroundings : Surroundings World) (credential : Credential) :
    Action (TokenState World) String := do
  let usable? ← usable? surroundings
  match usable? with
  | some token => pure token
  | none => do
      let answer ← outside (fetch surroundings credential)
      let now ← outside (Action.inspect surroundings.now)
      let expiresAt ← Action.ofExcept (Clock.after now answer.lifetime)
      Action.modify fun state => { state with cached := some ⟨answer.token, expiresAt⟩ }
      pure answer.token

end Credential

end ClusterLinks
