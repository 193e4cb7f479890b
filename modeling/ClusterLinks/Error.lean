/-!
# Failures

Every way in which reconciling clusters can fail, as a cause. A failure is either worth another
try, because what it waits for is still being provisioned, or needs somebody to step in.
-/

namespace ClusterLinks

/-- A failure of a request to the Kubernetes API. -/
inductive KubernetesError where
  /-- The server answered with an error status. -/
  | refused (code : Nat) (reason message : String)
  /-- The request could not be made, or its answer could not be understood. -/
  | failed (detail : String)
  deriving DecidableEq

namespace KubernetesError

def code? : KubernetesError → Option Nat
  | refused code _ _ => some code
  | failed _ => none

def reason? : KubernetesError → Option String
  | refused _ reason _ => some reason
  | failed _ => none

def message : KubernetesError → String
  | refused _ reason message => message ++ ": " ++ reason
  | failed detail => detail

end KubernetesError

inductive Error where
  | kubernetes (cause : KubernetesError)
  | invalidConfig (message : String)
  | subnetsNotDeclared (cluster : String)
  | subscriptionNotAuthorized (managementCluster subscription workloadCluster : String)
  | unknownLoadBalancerType (cluster loadBalancerType : String)
  | linksNotReady (cluster : String)
  | endpointNotFound (endpoint : String)
  | networkInterfaceNotFound (endpoint : String)
  | privateAddressNotAssigned (endpoint : String)
  | provider (message : String) (status : Option Nat)
  | credentials (message : String)
  | serialization (message : String)
  /-- A time lies beyond what the clock can represent. There is no going on from this one. -/
  | clockOverflow
  deriving DecidableEq

namespace Error

/-- Whether waiting may help. -/
def isRetryable : Error → Bool
  | linksNotReady _ | endpointNotFound _ | networkInterfaceNotFound _
  | privateAddressNotAssigned _ => true
  | _ => false

/-- The cluster that has to change before another try can succeed. -/
def cluster? : Error → Option String
  | subnetsNotDeclared cluster => some cluster
  | subscriptionNotAuthorized _ _ workloadCluster => some workloadCluster
  | unknownLoadBalancerType cluster _ => some cluster
  | linksNotReady cluster => some cluster
  | _ => none

/-- The private endpoint that the failure is about. -/
def endpoint? : Error → Option String
  | endpointNotFound endpoint => some endpoint
  | networkInterfaceNotFound endpoint => some endpoint
  | privateAddressNotAssigned endpoint => some endpoint
  | _ => none

def message : Error → String
  | kubernetes cause => "kubernetes error: " ++ cause.message
  | invalidConfig message => "invalid configuration: " ++ message
  | subnetsNotDeclared cluster => "cluster " ++ cluster ++ " does not have any subnets set"
  | subscriptionNotAuthorized managementCluster subscription workloadCluster =>
      "cluster " ++ managementCluster ++ " subscription " ++ subscription ++
        " is not allowed to connect to any private link of workload cluster " ++ workloadCluster
  | unknownLoadBalancerType cluster loadBalancerType =>
      "cluster " ++ cluster ++ " has unknown API server load balancer type " ++ loadBalancerType
  | linksNotReady cluster => "private links of cluster " ++ cluster ++ " are not yet ready"
  | endpointNotFound endpoint => "private endpoint " ++ endpoint ++ " not found"
  | networkInterfaceNotFound endpoint =>
      "private endpoint " ++ endpoint ++ " has no network interface"
  | privateAddressNotAssigned endpoint =>
      "private endpoint " ++ endpoint ++ " has no private IP address assigned"
  | provider message _ => "provider error: " ++ message
  | credentials message => "credentials error: " ++ message
  | serialization message => "serialization error: " ++ message
  | clockOverflow => "overflow when adding duration to instant"

end Error

end ClusterLinks
