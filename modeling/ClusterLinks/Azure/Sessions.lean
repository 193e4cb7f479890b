import ClusterLinks.Azure.EndpointsClient
import ClusterLinks.Azure.Token
import ClusterLinks.Controller
import ClusterLinks.Kubernetes.Client
import ClusterLinks.Kubernetes.Secret

/-!
# Clients for the subscriptions of clusters

A cluster refers to an identity. Each time a client is asked for, the identity is resolved to a
credential, so a rotated secret is noticed. As long as the credential stays the same, so does
the client with its token; a changed credential gets a new client in place of the old one.
-/

namespace ClusterLinks

/-- Where the operator finds the services of Azure and its own token file. -/
structure AzureSettings where
  resourceManager : String := "https://management.azure.com"
  authorityHost : String := "https://login.microsoftonline.com"
  tokenFile : String := "/var/run/secrets/azure/tokens/azure-identity-token"
  deriving DecidableEq

/-- A subscription and the identity that looks into it. -/
structure ClientKey where
  subscriptionId : String
  identity : ObjectKey
  deriving DecidableEq

/-- A client that was made for a subscription, with the token that it keeps. -/
structure Session where
  subscriptionId : String
  kind : CredentialKind
  cached : Option CachedToken := none
  deriving DecidableEq

/-- All clients that were ever made, the number of the current one under each key, and the world
around them. -/
structure SessionState (World : Type) where
  sessions : List Session := []
  current : List (ClientKey × Nat) := []
  world : World

namespace SessionState

variable {World : Type}

/-- The number of the current client under a key. -/
def current? (state : SessionState World) (key : ClientKey) : Option Nat :=
  (state.current.find? (·.1 = key)).map (·.2)

/-- The current client under a key if its credential is the given one. -/
def reusable? (state : SessionState World) (key : ClientKey) (kind : CredentialKind) :
    Option Nat :=
  (state.current? key).filter fun number =>
    (state.sessions[number]?.map (·.kind)) = some kind

/-- The number of the client for a key and a credential, made if need be. -/
def acquire (key : ClientKey) (kind : CredentialKind) (state : SessionState World) :
    Nat × SessionState World :=
  match state.reusable? key kind with
  | some number => (number, state)
  | none =>
      let number := state.sessions.length
      (number,
        { state with
          sessions := state.sessions ++ [{ subscriptionId := key.subscriptionId, kind }]
          current := (key, number) :: state.current.filter (·.1 ≠ key) })

end SessionState

namespace Sessions

variable {World : Type}

/-- An action on the world around the clients. -/
def outside {α : Type} (action : Action World α) : Action (SessionState World) α :=
  action.within (·.world) fun world state => { state with world }

/-- What a secret holds for a service principal. -/
def readSecret (connection : ApiConnection World) (key : ObjectKey) :
    Action World (Option String) := do
  let secret? ← connection.find? KubernetesError.hasMissingReason Secret.reader .secret key
  match secret? with
  | none => Action.fail (.credentials ("client secret " ++ key.toText ++ " not found"))
  | some secret =>
      match secret.value? Conventions.clientSecretKey with
      | none => pure none
      | some bytes =>
          match String.fromUTF8? (ByteArray.mk bytes.toArray) with
          | some text => pure (some text)
          | none =>
              Action.fail
                (.credentials ("client secret " ++ key.toText ++ " is not valid UTF-8"))

/-- The secret of an identity that has one. References without a namespace stay in the namespace
of the identity. -/
def secretOf (connection : ApiConnection World) (space : String) (identity : IdentitySpec) :
    Action World (Option String) :=
  match identity.type, identity.clientSecret with
  | .manualServicePrincipal, some reference =>
      readSecret connection
        ⟨if reference.space = "" then space else reference.space, reference.name⟩
  | _, _ => pure none

/-- The identity that a cluster refers to, by default in the namespace of the cluster. -/
def identityKey (cluster : Cluster) : Except Error ObjectKey :=
  match cluster.spec.identityRef with
  | none =>
      .error (.invalidConfig ("cluster " ++ cluster.displayName ++ " has no identityRef"))
  | some reference =>
      let space :=
        if reference.space = "" then cluster.metadata.space.getD "" else reference.space
      .ok ⟨space, reference.name⟩

/-- The credential that a cluster authenticates with and the key of its client. -/
def resolve (settings : AzureSettings) (connection : ApiConnection World) (cluster : Cluster) :
    Action World (ClientKey × CredentialKind) := do
  let key ← Action.ofExcept (identityKey cluster)
  let identity? ←
    connection.find? KubernetesError.hasMissingReason AzureIdentity.reader .identity key
  let identity ← Action.ofOption
    (.invalidConfig ("AzureClusterIdentity " ++ key.toText ++ " not found")) identity?
  let secret? ← secretOf connection key.space identity.spec
  let kind ← Action.ofExcept
    (CredentialKind.ofIdentity identity.spec secret? settings.tokenFile)
  pure (⟨cluster.spec.subscriptionId, key⟩, kind)

/-- The number of the client for the subscription of a cluster. -/
def numberFor (settings : AzureSettings) (connection : ApiConnection World)
    (cluster : Cluster) : Action (SessionState World) Nat := do
  let (key, kind) ← outside (resolve settings connection cluster)
  Action.step (SessionState.acquire key kind)

/-- A token of the client with a number. -/
def token (settings : AzureSettings) (surroundings : Surroundings World) (number : Nat)
    (session : Session) : Action (SessionState World) String :=
  let credential : Credential :=
    { kind := session.kind, authorityHost := settings.authorityHost }
  fun state =>
    let cached := (state.sessions[number]?).bind (·.cached)
    let (result, tokens) := credential.token surroundings ⟨cached, state.world⟩
    (result,
      { state with
        sessions := state.sessions.modify number ({ · with cached := tokens.cached })
        world := tokens.world })

/-- The client with a number. -/
def client (settings : AzureSettings) (surroundings : Surroundings World) (number : Nat)
    (session : Session) : EndpointsClient (SessionState World) :=
  ResourceManager.client
    (surroundings.within (·.world) fun world state => { state with world })
    (token settings surroundings number session)
    { endpoint := settings.resourceManager, subscriptionId := session.subscriptionId }

/-- Looks an endpoint up through the client with a number. -/
def lookup (settings : AzureSettings) (surroundings : Surroundings World) (number : Nat)
    (resourceGroup name : String) : Action (SessionState World) (Option EndpointResource) := do
  let session? ← Action.inspect (·.sessions[number]?)
  match session? with
  | some session => (client settings surroundings number session).lookup resourceGroup name
  | none => pure none

def clients (settings : AzureSettings) (connection : ApiConnection World)
    (surroundings : Surroundings World) : ClientFactory (SessionState World) where
  client cluster := do
    let number ← numberFor settings connection cluster
    pure ⟨lookup settings surroundings number⟩

end Sessions

end ClusterLinks
