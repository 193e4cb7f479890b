/-!
# Agreed names

The names under which the operator leaves its marks on clusters and finds those of others.
-/

namespace ClusterLinks.Conventions

/-- Who the API server records as the author of a change. -/
def fieldManager : String := "privlink-operator"

/-- Keeps a workload cluster until the endpoints that reach it are gone. -/
def finalizer : String := "privlink.dev/private-endpoints"

/-- Annotation with the address at which the management cluster reaches a workload cluster. -/
def apiServerAddress : String := "privlink.dev/mc-to-wc-apiserver-ip"

/-- Annotation with the address at which a workload cluster reaches the management cluster. -/
def ingressAddress : String := "privlink.dev/wc-to-mc-ingress-ip"

/-- The condition that says that the links of a cluster can be connected to. -/
def linksReadyCondition : String := "PrivateLinksReady"

/-- The entry of a secret that holds the secret of a service principal. -/
def clientSecretKey : String := "clientSecret"

/-- The role of the subnet that hosts endpoints. -/
def nodeRole : String := "node"

end ClusterLinks.Conventions
