import ClusterLinks.Azure.Identity
import ClusterLinks.Error
import ClusterLinks.Text.Quoted

/-!
# Credentials

What a declared identity authenticates with. A description of a credential never shows the
secret.
-/

namespace ClusterLinks

inductive CredentialKind where
  /-- An identity that the machine vouches for. -/
  | managedIdentity (clientId : String)
  | clientSecret (tenantId clientId secret : String)
  /-- A token in a file stands for the identity. -/
  | workloadIdentity (tenantId clientId tokenFile : String)
  deriving DecidableEq

namespace CredentialKind

def name : CredentialKind → String
  | managedIdentity _ => "managed identity"
  | clientSecret _ _ _ => "client secret"
  | workloadIdentity _ _ _ => "workload identity"

def clientId : CredentialKind → String
  | managedIdentity clientId => clientId
  | clientSecret _ clientId _ => clientId
  | workloadIdentity _ clientId _ => clientId

/-- The credential for people to read. -/
def describe : CredentialKind → String
  | managedIdentity clientId =>
      "ManagedIdentity \x7b client_id: " ++ Text.quoted clientId ++ " \x7d"
  | clientSecret tenantId clientId _ =>
      "ClientSecret \x7b tenant_id: " ++ Text.quoted tenantId ++ ", client_id: " ++
        Text.quoted clientId ++ ", client_secret: \"<redacted>\" \x7d"
  | workloadIdentity tenantId clientId tokenFile =>
      "WorkloadIdentity \x7b tenant_id: " ++ Text.quoted tenantId ++ ", client_id: " ++
        Text.quoted clientId ++ ", token_file: " ++ Text.quoted tokenFile ++ " \x7d"

/-- The tenant of an identity that needs one. -/
def tenantOf (identity : IdentitySpec) : Except Error String :=
  if identity.tenantId = "" then .error (.invalidConfig "cluster identity has no tenantID")
  else .ok identity.tenantId

/-- The credential of an identity, given what its secret holds and where the token file is. -/
def ofIdentity (identity : IdentitySpec) (secret? : Option String) (tokenFile : String) :
    Except Error CredentialKind :=
  if identity.clientId = "" then .error (.invalidConfig "cluster identity has no clientID")
  else
    match identity.type with
    | .userAssignedMsi => .ok (managedIdentity identity.clientId)
    | .manualServicePrincipal => do
        let tenantId ← tenantOf identity
        match secret?.filter (· ≠ "") with
        | some secret => .ok (clientSecret tenantId identity.clientId secret)
        | none => .error (.credentials "service principal identity has no client secret")
    | .workloadIdentity => do
        let tenantId ← tenantOf identity
        .ok (workloadIdentity tenantId identity.clientId tokenFile)
    | .other name => .error (.credentials ("unsupported identity type " ++ name))

end CredentialKind

end ClusterLinks
