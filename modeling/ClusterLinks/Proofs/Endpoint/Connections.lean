import ClusterLinks.Proofs.Endpoint.Hosting
import ClusterLinks.Proofs.Endpoint.Lists
import ClusterLinks.Proofs.Link.Records
import ClusterLinks.Proofs.ResourceId.Groups

/-!
# Where endpoints lead

An endpoint that was made for a link connects to that link and to nothing else, so the name and
the group of the link say everything about where it leads.
-/

namespace ClusterLinks

namespace Cluster

/-- The subscription and the resource group that a cluster lives in. -/
def place (cluster : Cluster) : String × String :=
  (cluster.spec.subscriptionId, cluster.spec.resourceGroup)

/-- Neither subscription nor resource group have a slash in them. -/
def HasPlainPlace (cluster : Cluster) : Prop :=
  ResourceId.IsSegment cluster.spec.subscriptionId ∧ ResourceId.IsSegment cluster.spec.resourceGroup

instance (cluster : Cluster) : Decidable cluster.HasPlainPlace :=
  inferInstanceAs (Decidable (_ ∧ _))

/-- The identifier of a link by this name that the cluster publishes. -/
def linkId (cluster : Cluster) (link : String) : String :=
  ResourceId.privateLink cluster.spec.subscriptionId cluster.spec.resourceGroup link

variable {owner owner' : Cluster} {link : String}

theorem linkId_of_place_eq (same : owner.place = owner'.place) (link : String) :
    owner.linkId link = owner'.linkId link := by
  rcases Prod.mk.inj same with ⟨subscriptions, groups⟩
  rw [linkId, linkId, subscriptions, groups]

/-- The identifier of a link says which place it is in. -/
theorem place_eq_of_linkId_eq {link' : String} (plain : owner.HasPlainPlace)
    (plain' : owner'.HasPlainPlace) (equal : owner.linkId link = owner'.linkId link') :
    owner.place = owner'.place := by
  have inside : ResourceId.isInGroup (owner.linkId link) owner'.spec.subscriptionId
      owner'.spec.resourceGroup = true := by
    rw [equal]
    exact ResourceId.isInGroup_privateLink ..
  obtain ⟨subscriptions, groups⟩ :=
    (ResourceId.isInGroup_privateLink_iff plain'.1 plain'.2 plain.1 plain.2).mp inside
  rw [place, place, subscriptions, groups]

end Cluster

theorem LinkDirectory.place_of_ofCluster {cluster : Cluster} {directory : LinkDirectory}
    (found : ofCluster cluster = .ok directory) :
    directory.identity.subscriptionId = cluster.spec.subscriptionId ∧
      directory.identity.resourceGroup = cluster.spec.resourceGroup :=
  ClusterIdentity.place_of_ofCluster (ofCluster_eq_ok_iff.mp found).1

theorem LinkDirectory.links_of_ofCluster {cluster : Cluster} {directory : LinkDirectory}
    (found : ofCluster cluster = .ok directory) : directory.links = cluster.privateLinks :=
  (ofCluster_eq_ok_iff.mp found).2.1

/-- The directory of a cluster knows links by the identifiers that they have in the cluster. -/
theorem LinkDirectory.idOf_of_ofCluster {cluster : Cluster} {directory : LinkDirectory}
    (found : ofCluster cluster = .ok directory) (link : PrivateLink) :
    directory.idOf link = cluster.linkId link.name := by
  rcases place_of_ofCluster found with ⟨subscription, group⟩
  rw [idOf, subscription, group, Cluster.linkId]

namespace PrivateEndpoint

variable {endpoint : PrivateEndpoint} {id : String} {owner owner' : Cluster}

/-- Some connection is to the link with this identifier. -/
def ConnectsTo (endpoint : PrivateEndpoint) (id : String) : Prop :=
  ∃ connection ∈ endpoint.connections, connection.privateLinkServiceId = id

instance (endpoint : PrivateEndpoint) (id : String) : Decidable (endpoint.ConnectsTo id) :=
  inferInstanceAs (Decidable (∃ connection ∈ endpoint.connections, _))

/-- There is one connection, and it is to the link with this identifier. -/
def ConnectsOnlyTo (endpoint : PrivateEndpoint) (id : String) : Prop :=
  endpoint.connections.map (·.privateLinkServiceId) = [id]

instance (endpoint : PrivateEndpoint) (id : String) : Decidable (endpoint.ConnectsOnlyTo id) :=
  inferInstanceAs (Decidable (_ = _))

theorem ConnectsOnlyTo.connectsTo_iff (only : endpoint.ConnectsOnlyTo id) (other : String) :
    endpoint.ConnectsTo other ↔ other = id := by
  have members : endpoint.ConnectsTo other ↔
      other ∈ endpoint.connections.map (·.privateLinkServiceId) := by
    simp [ConnectsTo]
  rw [members, only, List.mem_singleton]

theorem ConnectsOnlyTo.leadsInto_eq (only : endpoint.ConnectsOnlyTo id)
    (subscription group : String) :
    endpoint.leadsInto subscription group = ResourceId.isInGroup id subscription group := by
  have mapped : endpoint.leadsInto subscription group =
      (endpoint.connections.map (·.privateLinkServiceId)).any
        (ResourceId.isInGroup · subscription group) := by
    rw [List.any_map]
    rfl
  rw [mapped, only]
  simp

/-- What connects to a link of a cluster alone leads to the place of that cluster alone. -/
theorem ConnectsOnlyTo.leadsInto_iff {link : String}
    (only : endpoint.ConnectsOnlyTo (owner.linkId link)) (plain : owner.HasPlainPlace)
    (plain' : owner'.HasPlainPlace) :
    endpoint.leadsInto owner'.spec.subscriptionId owner'.spec.resourceGroup = true ↔
      owner.place = owner'.place := by
  rw [only.leadsInto_eq, Cluster.linkId, ResourceId.isInGroup_privateLink_iff plain'.1 plain'.2
    plain.1 plain.2]
  simp [Cluster.place]

/-- The endpoint is named for a link of the cluster and connects to that link alone. -/
def IsMadeFor (owner : Cluster) (endpoint : PrivateEndpoint) : Prop :=
  ∃ link ∈ owner.privateLinks,
    endpoint.name = nameFor link.name ∧ endpoint.ConnectsOnlyTo (owner.linkId link.name)

instance (owner : Cluster) (endpoint : PrivateEndpoint) : Decidable (IsMadeFor owner endpoint) :=
  inferInstanceAs (Decidable (∃ link ∈ owner.privateLinks, _))

/-- Name and group of an endpoint that was made for a cluster determine its only connection. -/
theorem IsMadeFor.connectsOnlyTo (made : IsMadeFor owner endpoint) {link : String}
    (named : endpoint.name = nameFor link) : endpoint.ConnectsOnlyTo (owner.linkId link) := by
  rcases made with ⟨published, -, named', only⟩
  rw [named', nameFor_inj] at named
  rwa [← named]

variable (host identity : ClusterIdentity) (link : PrivateLink)

@[simp] theorem name_forApiServer :
    (forApiServer host identity link).name = nameFor link.name := rfl

theorem forApiServer_connectsOnlyTo :
    (forApiServer host identity link).ConnectsOnlyTo
      (ResourceId.privateLink identity.subscriptionId identity.resourceGroup link.name) := rfl

end PrivateEndpoint

/-- The host has an endpoint that is named for the link and connects to it. -/
def Cluster.Reaches (host owner : Cluster) (link : String) : Prop :=
  ∃ endpoint ∈ host.hostedEndpoints,
    endpoint.name = PrivateEndpoint.nameFor link ∧ endpoint.ConnectsTo (owner.linkId link)

instance (host owner : Cluster) (link : String) : Decidable (host.Reaches owner link) :=
  inferInstanceAs (Decidable (∃ endpoint ∈ host.hostedEndpoints, _))

end ClusterLinks
