import ClusterLinks.Endpoint.Resource
import ClusterLinks.Surroundings
import ClusterLinks.Text.Blank

/-!
# Looking endpoints up in Azure

One request per look-up, addressed to the resource of the given name in a resource group of the
subscription of the client.
-/

namespace ClusterLinks

/-- The services of Azure that know about the resources of a subscription. -/
structure ResourceManager where
  endpoint : String := "https://management.azure.com"
  subscriptionId : String
  deriving DecidableEq

namespace ResourceManager

variable {World : Type}

def apiVersion : String := "2023-09-01"

/-- The address of a private endpoint. -/
def endpointAddress (manager : ResourceManager) (resourceGroup name : String) : String :=
  Text.withoutFinalSlashes manager.endpoint ++ "/subscriptions/" ++ manager.subscriptionId ++
    "/resourceGroups/" ++ resourceGroup ++ "/providers/Microsoft.Network/privateEndpoints/" ++
    name

/-- The request for a private endpoint with its network interfaces. -/
def request? (manager : ResourceManager) (token resourceGroup name : String) :
    Except Http.Problem Http.Request :=
  Http.Request.make? .get (manager.endpointAddress resourceGroup name)
    [("api-version", apiVersion), ("$expand", "NetworkInterfaces")]
    [("authorization", "Bearer " ++ token)] ""

/-- What an answer says about the endpoint of a name. -/
def readReply (name : String) : Except Http.Problem Http.Reply →
    Except Error (Option EndpointResource)
  | .error problem =>
      .error (.provider ("failed to get private endpoint " ++ name ++ ": " ++ problem.message) none)
  | .ok reply =>
      if reply.status = 404 then .ok none
      else if Http.Status.isSuccess reply.status then
        match reply.content.read? EndpointResource.reader with
        | some resource => .ok (some resource)
        | none =>
            .error <| .provider
              ("invalid private endpoint " ++ name ++ " response: " ++
                Http.Problem.unreadable.message)
              none
      else
        .error <| .provider
          ("get private endpoint " ++ name ++ " returned " ++ Http.Status.describe reply.status ++
            ": " ++ reply.content.toText)
          (some reply.status)

/-- A client that gets its tokens from `token`. -/
def client (surroundings : Surroundings World) (token : Action World String)
    (manager : ResourceManager) : EndpointsClient World where
  lookup resourceGroup name := do
    let token ← token
    let reply? ← surroundings.ask (manager.request? token resourceGroup name)
    Action.ofExcept (readReply name reply?)

end ResourceManager

end ClusterLinks
