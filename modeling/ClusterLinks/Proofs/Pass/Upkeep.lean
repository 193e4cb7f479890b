import ClusterLinks.Proofs.Endpoint.Connections
import ClusterLinks.Proofs.Pass.Effect

/-!
# Endpoints that stay and endpoints that go

A pass removes what leads to the owner but to none of its links. As long as names are unique this
is a filter on the list of endpoints, and none of the endpoints that the pass asked for is caught
in it.
-/

namespace ClusterLinks.Pass

open Endpoints

variable {endpoints : List PrivateEndpoint} {endpoint : PrivateEndpoint}
variable {host : ClusterIdentity} {links : LinkDirectory}

/-- Whether an endpoint leads to the owner but to none of its links. -/
def isStale (links : LinkDirectory) (endpoint : PrivateEndpoint) : Bool :=
  endpoint.leadsInto links.identity.subscriptionId links.identity.resourceGroup &&
    !isUsed links endpoint

theorem unused_eq (links : LinkDirectory) (endpoints : List PrivateEndpoint) :
    unused links endpoints = endpoints.filter (isStale links) := by
  rw [unused, leadingInto, List.filter_filter]
  apply List.filter_congr
  intro endpoint _
  exact Bool.and_comm _ _

theorem removeUnused_eq_removeNames (links : LinkDirectory) (endpoints : List PrivateEndpoint) :
    removeUnused links endpoints =
      removeNames ((unused links endpoints).map (·.name)) endpoints := by
  rw [removeUnused, removeNames, List.foldl_map]

theorem removeWanted_eq_removeNames (host : ClusterIdentity) (links : LinkDirectory)
    (endpoints : List PrivateEndpoint) :
    removeWanted host links endpoints =
      removeNames ((links.allowing host.subscriptionId).map (PrivateEndpoint.nameFor ·.name))
        endpoints := by
  rw [removeWanted, removeNames, List.foldl_map]

/-- Where names are unique, the stale endpoints go and no others. -/
theorem removeUnused_of_unique (unique : UniqueNames endpoints) (links : LinkDirectory) :
    removeUnused links endpoints = endpoints.filter (!isStale links ·) := by
  rw [removeUnused_eq_removeNames, unique.removeNames_eq, unused_eq]
  apply List.filter_congr
  intro endpoint member
  congr 1
  rw [Bool.eq_iff_iff, List.contains_iff_mem, List.mem_map]
  constructor
  · intro named
    rcases named with ⟨stale, staleMember, sameName⟩
    rcases List.mem_filter.mp staleMember with ⟨staleThere, isStale⟩
    rwa [← unique.eq_of_name staleThere member sameName]
  · intro isStale
    exact ⟨endpoint, List.mem_filter.mpr ⟨member, isStale⟩, rfl⟩

/-- The names of the endpoints that a host should have for the links of an owner. -/
def wantedNames (host : ClusterIdentity) (links : LinkDirectory) : List String :=
  (links.allowing host.subscriptionId).map (PrivateEndpoint.nameFor ·.name)

/-- Where names are unique, the endpoints with wanted names go and no others. -/
theorem removeWanted_of_unique (unique : UniqueNames endpoints) (host : ClusterIdentity)
    (links : LinkDirectory) :
    removeWanted host links endpoints =
      endpoints.filter (!(wantedNames host links).contains ·.name) := by
  rw [removeWanted_eq_removeNames]
  exact unique.removeNames_eq _

theorem removeWanted_removeWanted (unique : UniqueNames endpoints) (host : ClusterIdentity)
    (links : LinkDirectory) :
    removeWanted host links (removeWanted host links endpoints) =
      removeWanted host links endpoints := by
  have fewer : UniqueNames (removeWanted host links endpoints) := by
    rw [removeWanted_of_unique unique]
    exact unique.sublist List.filter_sublist
  rw [removeWanted_of_unique fewer, removeWanted_of_unique unique, List.filter_filter]
  simp only [Bool.and_self]

/-! ## Wanted endpoints -/

theorem mem_wanted :
    endpoint ∈ wanted host links ↔
      ∃ link ∈ links.allowing host.subscriptionId,
        PrivateEndpoint.forApiServer host links.identity link = endpoint :=
  List.mem_map

/-- A host looks at the links of the owner that allow its subscription. -/
theorem allowing_of_ofCluster {cluster owner : Cluster} {directory : EndpointDirectory}
    (hosts : EndpointDirectory.ofCluster cluster = .ok directory)
    (owns : LinkDirectory.ofCluster owner = .ok links) :
    links.allowing directory.identity.subscriptionId =
      PrivateLink.allowing owner.privateLinks cluster.spec.subscriptionId := by
  rw [LinkDirectory.allowing, LinkDirectory.links_of_ofCluster owns,
    (EndpointDirectory.place_of_ofCluster hosts).1]

theorem isUsed_iff :
    isUsed links endpoint = true ↔
      ∃ link ∈ links.links, endpoint.ConnectsTo (links.idOf link) := by
  simp only [isUsed, List.any_eq_true, LinkDirectory.find?_isSome_iff, PrivateEndpoint.ConnectsTo]
  constructor
  · intro used
    rcases used with ⟨connection, member, link, published, same⟩
    exact ⟨link, published, connection, member, same.symm⟩
  · intro connected
    rcases connected with ⟨link, published, connection, member, same⟩
    exact ⟨connection, member, link, published, same.symm⟩

/-- What connects to a published link is in use. -/
theorem not_isStale_of_connectsTo {link : PrivateLink} (published : link ∈ links.links)
    (connected : endpoint.ConnectsTo (links.idOf link)) : isStale links endpoint = false := by
  simp [isStale, isUsed_iff.mpr ⟨link, published, connected⟩]

theorem not_isStale_of_mem_wanted (member : endpoint ∈ wanted host links) :
    isStale links endpoint = false := by
  rcases mem_wanted.mp member with ⟨link, allowed, rfl⟩
  apply not_isStale_of_connectsTo (List.mem_of_mem_filter allowed)
  have only := PrivateEndpoint.forApiServer_connectsOnlyTo host links.identity link
  exact (only.connectsTo_iff _).mpr rfl

/-- What leads elsewhere is none of the business of the owner. -/
theorem not_isStale_of_elsewhere {owner other : Cluster} {name : String}
    (owns : LinkDirectory.ofCluster owner = .ok links)
    (only : endpoint.ConnectsOnlyTo (other.linkId name)) (plain : owner.HasPlainPlace)
    (otherPlain : other.HasPlainPlace) (elsewhere : other.place ≠ owner.place) :
    isStale links endpoint = false := by
  rcases LinkDirectory.place_of_ofCluster owns with ⟨subscription, group⟩
  have outside : endpoint.leadsInto owner.spec.subscriptionId owner.spec.resourceGroup = false := by
    rw [← Bool.not_eq_true, only.leadsInto_iff otherPlain plain]
    exact elsewhere
  rw [isStale, subscription, group, outside, Bool.false_and]

/-- What was made for some cluster and is named for a link of the owner is not stale, whether it
leads to the owner or not. -/
theorem not_isStale_of_isMadeFor {owner other : Cluster} {link : PrivateLink}
    (owns : LinkDirectory.ofCluster owner = .ok links) (plain : owner.HasPlainPlace)
    (otherPlain : other.HasPlainPlace) (made : endpoint.IsMadeFor other)
    (published : link ∈ owner.privateLinks)
    (named : endpoint.name = PrivateEndpoint.nameFor link.name) :
    isStale links endpoint = false := by
  have only := made.connectsOnlyTo named
  by_cases here : other.place = owner.place
  · rw [← LinkDirectory.links_of_ofCluster owns] at published
    apply not_isStale_of_connectsTo published
    rw [only.connectsTo_iff, LinkDirectory.idOf_of_ofCluster owns]
    exact (Cluster.linkId_of_place_eq here link.name).symm
  · exact not_isStale_of_elsewhere owns only plain otherPlain here

/-! ## Addresses on record do not matter -/

section Records

variable (direction : Direction) (addresses : List IpAddress)

@[simp] theorem obstacle?_recordAll :
    obstacle? host (links.recordAll direction addresses) = obstacle? host links := by
  simp [obstacle?, LinkDirectory.allowing, LinkDirectory.isReady]

@[simp] theorem wanted_recordAll :
    wanted host (links.recordAll direction addresses) = wanted host links := by
  simp [wanted, LinkDirectory.allowing]

@[simp] theorem isStale_recordAll :
    isStale (links.recordAll direction addresses) = isStale links := by
  funext endpoint
  simp [isStale, isUsed, LinkDirectory.find?, LinkDirectory.idOf]

end Records

/-! ## Settled endpoints -/

theorem settle_of_unique (unique : UniqueNames endpoints) (host : ClusterIdentity)
    (links : LinkDirectory) :
    settle host links endpoints =
      (addAll (wanted host links) endpoints).filter (!isStale links ·) :=
  removeUnused_of_unique (unique.addAll _) links

theorem UniqueNames.settle (unique : UniqueNames endpoints) (host : ClusterIdentity)
    (links : LinkDirectory) : UniqueNames (settle host links endpoints) := by
  rw [settle_of_unique unique]
  exact (unique.addAll _).sublist List.filter_sublist

/-- What a pass that succeeds leaves: what was there and is not stale, and for each wanted name
that was free the endpoint that was wanted first. -/
theorem mem_settle (unique : UniqueNames endpoints) :
    endpoint ∈ settle host links endpoints ↔
      (endpoint ∈ endpoints ∧ isStale links endpoint = false) ∨
        (has endpoint.name endpoints = false ∧
          (wanted host links).find? (·.name == endpoint.name) = some endpoint) := by
  rw [settle_of_unique unique, List.mem_filter, mem_addAll, Bool.not_eq_true']
  constructor
  · intro kept
    rcases kept with ⟨present | added, fresh⟩
    · exact .inl ⟨present, fresh⟩
    · exact .inr added
  · intro origin
    rcases origin with ⟨present, fresh⟩ | ⟨free, found⟩
    · exact ⟨.inl present, fresh⟩
    · exact ⟨.inr ⟨free, found⟩, not_isStale_of_mem_wanted (List.mem_of_find?_eq_some found)⟩

theorem hostedEndpoints_of_ok {World : Type} {client? : Option (EndpointsClient World)}
    {world : World} {cluster owner : Cluster} {directory : EndpointDirectory}
    (hosts : EndpointDirectory.ofCluster cluster = .ok directory)
    (owns : LinkDirectory.ofCluster owner = .ok links)
    (succeeds : (run (reconcile client?) cluster owner world).1 = .ok ()) :
    (run (reconcile client?) cluster owner world).2.1.hostedEndpoints =
      settle directory.identity links cluster.hostedEndpoints := by
  rw [run_reconcile_of_ok hosts owns succeeds]
  exact EndpointDirectory.hostedEndpoints_withSubnets_update hosts _

end ClusterLinks.Pass
