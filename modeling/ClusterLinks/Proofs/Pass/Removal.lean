import ClusterLinks.Proofs.Pass.Findings

/-!
# What a pass takes away

All owners share the endpoints of a host, so a pass for one of them may take what another one uses.
A deletion goes by names: it takes whatever bears the name that a link of its owner asks for. A
pass that succeeds goes by groups: it takes what leads into the group of its owner and to none of
its links. What becomes of an endpoint is decided by the endpoint and that one owner; whether some
other owner still needs it has no part in it.
-/

namespace ClusterLinks

open Endpoints

namespace PrivateEndpoint

/-- The endpoint bears the name that one of the links asks for. -/
def IsNamedFor (links : List PrivateLink) (endpoint : PrivateEndpoint) : Prop :=
  ∃ link ∈ links, endpoint.name = nameFor link.name

instance (links : List PrivateLink) (endpoint : PrivateEndpoint) :
    Decidable (endpoint.IsNamedFor links) :=
  inferInstanceAs (Decidable (∃ link ∈ links, _))

/-- The endpoint leads into the group of the owner, and not to any of its links. -/
def IsLooseEndOf (owner : Cluster) (endpoint : PrivateEndpoint) : Prop :=
  endpoint.leadsInto owner.spec.subscriptionId owner.spec.resourceGroup = true ∧
    ∀ link ∈ owner.privateLinks, ¬ endpoint.ConnectsTo (owner.linkId link.name)

instance (owner : Cluster) (endpoint : PrivateEndpoint) :
    Decidable (endpoint.IsLooseEndOf owner) :=
  inferInstanceAs (Decidable (_ ∧ _))

end PrivateEndpoint

namespace Landscape

/-- The blue cluster when its deletion has been asked for. -/
def leavingBlue : Cluster :=
  { blue with metadata.deletionTimestamp := some ⟨0, 0⟩ }

/-- The management cluster, connected to the red and to the green cluster. -/
def busy : Cluster :=
  management.withSubnets
    [{ name := "nodes", role := some Conventions.nodeRole,
       endpoints :=
         [{ name := PrivateEndpoint.nameFor "api",
            connections := [{ privateLinkServiceId := red.linkId "api" }] },
          { name := PrivateEndpoint.nameFor "web",
            connections := [{ privateLinkServiceId := green.linkId "web" }] }] }]

/-- A cluster with a link by another name in the resource group of the red cluster. -/
def crimson : Cluster :=
  let elsewhere := workload "crimson" ["web"]
  { elsewhere with spec.resourceGroup := red.spec.resourceGroup }

end Landscape

namespace Pass

variable {World : Type} {client? : Option (EndpointsClient World)} {world : World}
variable {host owner : Cluster} {directory : EndpointDirectory} {links : LinkDirectory}
variable {endpoint : PrivateEndpoint}

/-- A pass between clusters of which one has no directory fails and leaves the host alone. -/
theorem run_cases (pass : Pass World Unit) (host owner : Cluster) (world : World) :
    ((∃ error, (run pass host owner world).1 = .error error) ∧
        (run pass host owner world).2.1 = host) ∨
      ∃ directory links, EndpointDirectory.ofCluster host = .ok directory ∧
        LinkDirectory.ofCluster owner = .ok links := by
  cases hosts : EndpointDirectory.ofCluster host with
  | error error =>
      left
      simp [run, hosts]
  | ok directory =>
    cases owns : LinkDirectory.ofCluster owner with
    | error error =>
        left
        simp [run, hosts, owns]
    | ok links =>
        right
        exact ⟨directory, links, rfl, rfl⟩

/-! ## Deletions -/

theorem contains_wantedNames_iff (hosts : EndpointDirectory.ofCluster host = .ok directory)
    (owns : LinkDirectory.ofCluster owner = .ok links) :
    (wantedNames directory.identity links).contains endpoint.name = true ↔
      endpoint.IsNamedFor (PrivateLink.allowing owner.privateLinks host.spec.subscriptionId) := by
  rw [wantedNames, allowing_of_ofCluster hosts owns, List.contains_iff_mem, List.mem_map]
  constructor
  · intro wanted
    obtain ⟨link, allowed, named⟩ := wanted
    exact ⟨link, allowed, named.symm⟩
  · intro named
    obtain ⟨link, allowed, named⟩ := named
    exact ⟨link, allowed, named.symm⟩

/-- A deletion fails only if one of the two clusters has no directory. -/
theorem run_delete_ok_iff (host owner : Cluster) (world : World) :
    (run delete host owner world).1 = .ok () ↔
      ∃ directory links, EndpointDirectory.ofCluster host = .ok directory ∧
        LinkDirectory.ofCluster owner = .ok links := by
  constructor
  · exact directories_of_run_ok
  · intro directories
    obtain ⟨directory, links, hosts, owns⟩ := directories
    rw [run_of_directories hosts owns, delete_run]

/-- A deletion takes the endpoints that are named for links of the owner, and it fails only if it
cannot look for them. -/
theorem hostedEndpoints_of_delete (unique : UniqueNames host.hostedEndpoints) (owner : Cluster)
    (world : World) :
    ((run delete host owner world).1 = .ok () ↔
        ∃ directory links, EndpointDirectory.ofCluster host = .ok directory ∧
          LinkDirectory.ofCluster owner = .ok links) ∧
      (run delete host owner world).2.1.hostedEndpoints =
        host.hostedEndpoints.filter fun endpoint =>
          ¬ ((run delete host owner world).1 = .ok () ∧ endpoint.IsNamedFor
            (PrivateLink.allowing owner.privateLinks host.spec.subscriptionId)) := by
  refine ⟨run_delete_ok_iff host owner world, ?_⟩
  cases run_cases delete host owner world with
  | inl failed =>
      obtain ⟨⟨error, fails⟩, kept⟩ := failed
      simp [fails, kept]
  | inr directories =>
      obtain ⟨directory, links, hosts, owns⟩ := directories
      rw [run_of_directories hosts owns, delete_run]
      simp only [EndpointDirectory.hostedEndpoints_withSubnets_update hosts, true_and,
        removeWanted_of_unique unique]
      apply List.filter_congr
      intro endpoint _
      rw [Bool.eq_iff_iff, Bool.not_eq_true', ← Bool.not_eq_true, decide_eq_true_iff,
        contains_wantedNames_iff hosts owns]

/-- A deletion succeeds exactly if both clusters have directories. Then it takes the endpoints that
are named for a link of the owner that allows the host, wherever they lead, and leaves the others in
their order; one that fails takes nothing. So what it takes leads to the owner exactly if every
endpoint of such a name does. -/
theorem deletion_goes_by_name (host owner : Cluster) (world : World)
    (unique : UniqueNames host.hostedEndpoints) :
    let pass := run delete host owner world
    let links := PrivateLink.allowing owner.privateLinks host.spec.subscriptionId
    (pass.1 = .ok () ↔ ∃ endpoints published, EndpointDirectory.ofCluster host = .ok endpoints ∧
        LinkDirectory.ofCluster owner = .ok published) ∧
      (pass.2.1.hostedEndpoints = host.hostedEndpoints.filter fun endpoint =>
        ¬ (pass.1 = .ok () ∧ endpoint.IsNamedFor links)) ∧
      ((∀ endpoint ∈ host.hostedEndpoints, endpoint ∉ pass.2.1.hostedEndpoints →
          endpoint.leadsInto owner.spec.subscriptionId owner.spec.resourceGroup = true) ↔
        (pass.1 = .ok () → ∀ endpoint ∈ host.hostedEndpoints, endpoint.IsNamedFor links →
          endpoint.leadsInto owner.spec.subscriptionId owner.spec.resourceGroup = true)) := by
  intro pass links
  obtain ⟨succeeds_iff, kept⟩ := hostedEndpoints_of_delete unique owner world
  have kept : pass.2.1.hostedEndpoints = _ := kept
  have taken {endpoint : PrivateEndpoint} (present : endpoint ∈ host.hostedEndpoints) :
      endpoint ∉ pass.2.1.hostedEndpoints ↔ pass.1 = .ok () ∧ endpoint.IsNamedFor links := by
    rw [kept, List.mem_filter, decide_eq_true_iff]
    constructor
    · intro gone
      by_contra spared
      exact gone ⟨present, spared⟩
    · intro named stays
      exact stays.2 named
  refine ⟨succeeds_iff, kept, ?_⟩
  constructor
  · intro leads succeeds endpoint present named
    exact leads endpoint present ((taken present).mpr ⟨succeeds, named⟩)
  · intro leads endpoint present gone
    obtain ⟨succeeds, named⟩ := (taken present).mp gone
    exact leads succeeds endpoint present named

open Landscape in
/-- Where the red and the green cluster are connected, the deletion of the green one takes its
endpoint and leaves that of the red one. -/
theorem hostedEndpoints_after_green_deletion :
    UniqueNames busy.hostedEndpoints ∧ (run delete busy green ()).1 = .ok () ∧
      busy.hostedEndpoints.map (·.name) =
        [PrivateEndpoint.nameFor "api", PrivateEndpoint.nameFor "web"] ∧
      (run delete busy green ()).2.1.hostedEndpoints = connected.hostedEndpoints := by
  have unique : UniqueNames busy.hostedEndpoints := by decide +kernel
  obtain ⟨succeeds_iff, kept, -⟩ := deletion_goes_by_name busy green () unique
  refine ⟨unique, succeeds_iff.mpr ⟨_, _, rfl, rfl⟩, by decide +kernel, ?_⟩
  rw [kept]
  decide +kernel

open Landscape in
/-- The deletion of the blue cluster takes the endpoint that leads to a link of the red cluster and
to nothing else. -/
theorem red_endpoint_taken_by_blue_deletion :
    UniqueNames connected.hostedEndpoints ∧ leavingBlue.isDeleting = true ∧
      ∃ endpoint ∈ connected.hostedEndpoints, endpoint.ConnectsOnlyTo (red.linkId "api") ∧
        endpoint.leadsInto leavingBlue.spec.subscriptionId leavingBlue.spec.resourceGroup = false ∧
        endpoint ∉ (run delete connected leavingBlue ()).2.1.hostedEndpoints := by
  decide +kernel

/-! ## Passes -/

theorem isStale_iff_isLooseEndOf (owns : LinkDirectory.ofCluster owner = .ok links) :
    isStale links endpoint = true ↔ endpoint.IsLooseEndOf owner := by
  obtain ⟨subscription, group⟩ := LinkDirectory.place_of_ofCluster owns
  have used : isUsed links endpoint = true ↔
      ∃ link ∈ owner.privateLinks, endpoint.ConnectsTo (owner.linkId link.name) := by
    rw [isUsed_iff, LinkDirectory.links_of_ofCluster owns]
    simp only [LinkDirectory.idOf_of_ofCluster owns]
  rw [isStale, subscription, group, Bool.and_eq_true, Bool.not_eq_true', ← Bool.not_eq_true, used,
    PrivateEndpoint.IsLooseEndOf]
  simp only [not_exists, not_and]

/-- A pass takes an endpoint exactly if it succeeds and the endpoint leads into the group of the
owner, but to none of its links. -/
theorem taken_iff_isLooseEndOf (unique : UniqueNames host.hostedEndpoints)
    (present : endpoint ∈ host.hostedEndpoints) :
    endpoint ∉ (run (reconcile client?) host owner world).2.1.hostedEndpoints ↔
      (run (reconcile client?) host owner world).1 = .ok () ∧ endpoint.IsLooseEndOf owner := by
  cases run_cases (reconcile client?) host owner world with
  | inl failed =>
      obtain ⟨⟨error, fails⟩, kept⟩ := failed
      simp [fails, kept, present]
  | inr directories =>
      obtain ⟨directory, links, hosts, owns⟩ := directories
      rw [run_reconcile_eq client? hosts owns world]
      cases obstacle? directory.identity links with
      | some error => simp [present]
      | none =>
          simp only [EndpointDirectory.hostedEndpoints_withSubnets_update hosts, adjust]
          cases (lookUps client? directory links world).result with
          | error error => simp [mem_addAll, present]
          | ok done =>
              rw [← isStale_iff_isLooseEndOf owns, mem_settle unique]
              have taken : has endpoint.name host.hostedEndpoints = true :=
                has_iff.mpr ⟨endpoint, present, rfl⟩
              simp [present, taken]

/-- A pass for the second cluster takes an endpoint exactly if it succeeds and the endpoint leads
into the group of the second cluster, but to none of its links. So an endpoint that connects to a
link of the first cluster alone goes exactly if the pass succeeds and the two clusters live in one
place. -/
theorem removal_goes_by_group (host first second : Cluster)
    (client? : Option (EndpointsClient World)) (world : World)
    (unique : UniqueNames host.hostedEndpoints)
    (names : ∀ link ∈ first.privateLinks, ∀ link' ∈ second.privateLinks, link.name ≠ link'.name)
    (endpoint : PrivateEndpoint) (present : endpoint ∈ host.hostedEndpoints) :
    let pass := run (reconcile client?) host second world
    (endpoint ∉ pass.2.1.hostedEndpoints ↔ pass.1 = .ok () ∧ endpoint.IsLooseEndOf second) ∧
      ∀ link ∈ first.privateLinks, endpoint.ConnectsOnlyTo (first.linkId link.name) →
        first.HasPlainPlace → second.HasPlainPlace →
          (endpoint ∉ pass.2.1.hostedEndpoints ↔ pass.1 = .ok () ∧ first.place = second.place) := by
  intro pass
  have taken : endpoint ∉ pass.2.1.hostedEndpoints ↔ _ := taken_iff_isLooseEndOf unique present
  refine ⟨taken, ?_⟩
  intro link published only firstPlain secondPlain
  have loose : endpoint.IsLooseEndOf second ↔ first.place = second.place := by
    rw [PrivateEndpoint.IsLooseEndOf, only.leadsInto_iff firstPlain secondPlain]
    constructor
    · exact fun leads => leads.1
    · intro together
      refine ⟨together, ?_⟩
      intro link' published' connects
      rw [only.connectsTo_iff, Cluster.linkId_of_place_eq together] at connects
      have sameName : link'.name = link.name := (ResourceId.privateLink_inj _ _ _ _).mp connects
      exact names link published link' published' sameName.symm
  rw [taken, loose]

open Landscape in
/-- A pass for the green cluster spares the endpoint of the red one, which lives elsewhere. -/
theorem red_endpoint_spared_by_green :
    (run (reconcile (some client)) connected green ()).1 = .ok () ∧
      ∃ endpoint ∈ connected.hostedEndpoints, endpoint.ConnectsOnlyTo (red.linkId "api") ∧
        endpoint ∈ (run (reconcile (some client)) connected green ()).2.1.hostedEndpoints := by
  let endpoint : PrivateEndpoint :=
    { name := PrivateEndpoint.nameFor "api",
      connections := [{ privateLinkServiceId := red.linkId "api" }] }
  have present : endpoint ∈ connected.hostedEndpoints := by decide +kernel
  have goes := (removal_goes_by_group connected red green (some client) () (by decide +kernel)
    (by decide +kernel) endpoint present).2 ⟨"api", ["hub"], [], ∅⟩ (by decide +kernel) rfl
    (by decide +kernel) (by decide +kernel)
  refine ⟨by decide +kernel, endpoint, present, rfl, ?_⟩
  by_contra gone
  exact absurd (goes.mp gone).2 (by decide +kernel)

open Landscape in
/-- A pass for the crimson cluster takes the endpoint that leads to a link of the red one. -/
theorem red_endpoint_taken_by_crimson :
    UniqueNames connected.hostedEndpoints ∧ red ≠ crimson ∧ red.place = crimson.place ∧
      (∀ link ∈ red.privateLinks, ∀ link' ∈ crimson.privateLinks, link.name ≠ link'.name) ∧
      ∃ link ∈ red.privateLinks, ∃ endpoint ∈ connected.hostedEndpoints,
        endpoint.ConnectsTo (red.linkId link.name) ∧
        endpoint ∉ (run (reconcile (some client)) connected crimson ()).2.1.hostedEndpoints := by
  decide +kernel

end Pass

end ClusterLinks
