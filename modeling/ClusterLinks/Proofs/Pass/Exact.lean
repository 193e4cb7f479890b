import ClusterLinks.Proofs.Pass.Footprint
import ClusterLinks.Proofs.Pass.LookUps
import ClusterLinks.Proofs.Pass.Removal

/-!
# What a pass comes to

How a pass ends is decided by its row of look-ups. One that succeeds has looked up an endpoint for
each link that allows the host; it leaves what was there and what was wanted, less the loose ends,
and the address for the last link on record. One that fails has left both clusters alone or has
stopped at a look-up: then nothing was removed, and what was done before stays.
-/

namespace ClusterLinks

namespace Landscape

/-- A cluster with two links. -/
def violet : Cluster := workload "violet" ["api", "web"]

/-- A client for which only the endpoints for links named `api` exist. -/
def hesitant : EndpointsClient Unit where
  lookup group name world :=
    if name = PrivateEndpoint.nameFor "api" then client.lookup group name world
    else (.ok none, world)

end Landscape

namespace Pass

open Endpoints

variable {World : Type} {client? : Option (EndpointsClient World)} {world : World}
variable {host owner : Cluster} {directory : EndpointDirectory} {links : LinkDirectory}

/-- The links of the owner that allow the host, in declaration order. -/
def openLinks (host owner : Cluster) : List PrivateLink :=
  PrivateLink.allowing owner.privateLinks host.spec.subscriptionId

/-- The endpoints of the host for some links of the owner. -/
def endpointsFor (host owner : ClusterIdentity) (row : List PrivateLink) : List PrivateEndpoint :=
  row.map (PrivateEndpoint.forApiServer host owner ·)

/-- One endpoint was looked up for each link in a row, and this is what came of it. -/
structure HasAsked (host : Cluster) (row : List PrivateLink) (lookUps : List LookUp)
    (outcomes : List (Except Error IpAddress)) : Prop where
  subjects : lookUps.map (·.subject) =
    row.map fun link => (host.spec.resourceGroup, PrivateEndpoint.nameFor link.name)
  outcomes : lookUps.map (·.address) = outcomes

section Directories

variable (hosts : EndpointDirectory.ofCluster host = .ok directory)
  (owns : LinkDirectory.ofCluster owner = .ok links)

include hosts owns

theorem wanted_eq :
    wanted directory.identity links =
      endpointsFor directory.identity links.identity (openLinks host owner) := by
  rw [wanted, allowing_of_ofCluster hosts owns]
  rfl

/-- A pass asks for as many endpoints as there are links that allow the host. -/
theorem length_wantedNames :
    ((wanted directory.identity links).map (·.name)).length = (openLinks host owner).length := by
  rw [wanted_eq hosts owns, endpointsFor, List.length_map, List.length_map]

/-- What stands in the way of a pass, as its clusters have it. -/
theorem obstacle?_eq :
    obstacle? directory.identity links =
      if openLinks host owner = [] then
        if owner.privateLinks = [] then none
        else some (.subscriptionNotAuthorized directory.identity.name host.spec.subscriptionId
          links.identity.name)
      else if Condition.holds owner.conditions Conventions.linksReadyCondition then none
      else some (.linksNotReady links.identity.name) := by
  obtain ⟨-, declared, conditions, -⟩ := LinkDirectory.ofCluster_eq_ok_iff.mp owns
  have subscription := (EndpointDirectory.place_of_ofCluster hosts).1
  have allowed : links.allowing host.spec.subscriptionId = openLinks host owner := by
    rw [← subscription]
    exact allowing_of_ofCluster hosts owns
  simp only [obstacle?, subscription, allowed, declared, LinkDirectory.isReady, conditions]
  cases openLinks host owner with
  | nil => cases owner.privateLinks <;> simp
  | cons first rest => cases Condition.holds owner.conditions _ <;> simp

/-- A pass meets an obstacle if no link allows the host, or if the links are not ready for it. -/
theorem obstacle?_cases {error : Error}
    (obstacle : obstacle? directory.identity links = some error) :
    (openLinks host owner = [] ∧ owner.privateLinks ≠ [] ∧
        error = .subscriptionNotAuthorized directory.identity.name host.spec.subscriptionId
          links.identity.name) ∨
      (openLinks host owner ≠ [] ∧
        Condition.holds owner.conditions Conventions.linksReadyCondition = false ∧
        error = .linksNotReady links.identity.name) := by
  rw [obstacle?_eq hosts owns] at obstacle
  split at obstacle
  · next noLink =>
      split at obstacle
      · cases obstacle
      · next declared => exact .inl ⟨noLink, declared, (Option.some.inj obstacle).symm⟩
  · next someLink =>
      split at obstacle
      · cases obstacle
      · next notReady =>
          exact .inr ⟨someLink, by simpa using notReady, (Option.some.inj obstacle).symm⟩

/-- Links that a host is to be connected to are ready. -/
theorem ready_of_free (free : obstacle? directory.identity links = none)
    (someLink : openLinks host owner ≠ []) :
    Condition.holds owner.conditions Conventions.linksReadyCondition = true := by
  rw [obstacle?_eq hosts owns, if_neg someLink] at free
  by_contra notReady
  simp [notReady] at free

/-- What a search has looked up, link by link. -/
theorem hasAsked_of_isMadeBy {search : Search World} {lookUps : List LookUp}
    (made : search.IsMadeBy directory.identity.resourceGroup
      ((wanted directory.identity links).map (·.name)) lookUps) :
    HasAsked host ((openLinks host owner).take search.attempts) lookUps search.outcomes where
  subjects := by
    have group := (EndpointDirectory.place_of_ofCluster hosts).2
    rw [made.subjects, wanted_eq hosts owns, group, endpointsFor, List.map_map, ← List.map_take,
      List.map_map]
    rfl
  outcomes := made.outcomes

/-- A search that succeeds has asked for all links that allow the host. -/
theorem hasAsked_of_ok (free : obstacle? directory.identity links = none)
    (found : (lookUps client? directory links world).result = .ok ()) :
    HasAsked host (openLinks host owner) (noted client? host owner world)
      ((lookUps client? directory links world).addresses.map .ok) := by
  have asked := hasAsked_of_isMadeBy hosts owns (isMadeBy_noted hosts owns free (.inr found))
  have length := Search.length_addresses_of_ok found
  rw [length_wantedNames hosts owns] at length
  have every : (openLinks host owner).length ≤
      (lookUps client? directory links world).attempts := by
    simp only [Search.attempts, found]
    exact Nat.le_of_eq length.symm
  rwa [List.take_of_length_le every, Search.outcomes_of_ok found] at asked

/-- A search that fails has asked for the links up to the one without an address. -/
theorem hasAsked_of_error {client : EndpointsClient World} {error : Error}
    (free : obstacle? directory.identity links = none)
    (stops : (lookUps (some client) directory links world).result = .error error) :
    let addresses := (lookUps (some client) directory links world).addresses
    addresses.length < (openLinks host owner).length ∧
      HasAsked host ((openLinks host owner).take (addresses.length + 1))
        (noted (some client) host owner world) (addresses.map .ok ++ [.error error]) := by
  have heard : (some client).isSome ∨
    (lookUps (some client) directory links world).result = .ok () := .inl rfl
  have asked := hasAsked_of_isMadeBy hosts owns (isMadeBy_noted hosts owns free heard)
  have fewer := Search.length_addresses_of_error stops
  rw [length_wantedNames hosts owns] at fewer
  rw [Search.attempts_of_error stops, Search.outcomes_of_error stops] at asked
  exact ⟨fewer, asked⟩

/-- Where names are unique, settling drops the loose ends from what was there and what is new. -/
theorem settle_eq (unique : UniqueNames host.hostedEndpoints) :
    settle directory.identity links host.hostedEndpoints =
      (host.hostedEndpoints ++
        newcomers (endpointsFor directory.identity links.identity (openLinks host owner))
          host.hostedEndpoints).filter (¬ ·.IsLooseEndOf owner) := by
  rw [settle_of_unique unique, addAll_eq, wanted_eq hosts owns]
  apply List.filter_congr
  intro endpoint _
  rw [Bool.eq_iff_iff, Bool.not_eq_true', ← Bool.not_eq_true, decide_eq_true_iff,
    isStale_iff_isLooseEndOf owns]

/-- Where a search has failed, what it asked for is there and nothing was dropped. -/
theorem adjust_of_error {search : Search World} {error : Error}
    (stops : search.result = .error error) (endpoints : List PrivateEndpoint) :
    adjust directory.identity links search endpoints =
      endpoints ++ newcomers (endpointsFor directory.identity links.identity
        ((openLinks host owner).take (search.addresses.length + 1))) endpoints := by
  simp only [adjust, stops, Search.attempts_of_error stops, addAll_eq, wanted_eq hosts owns,
    endpointsFor, List.map_take]

end Directories

/-- A pass that succeeds leaves the endpoints that were there, and behind them the first one that
is wanted for each free name, except for loose ends of the owner. It has looked up one endpoint for
each link that allows the host, has found an address every time, and has recorded the last one. -/
theorem result_of_ok (host owner : Cluster) (client? : Option (EndpointsClient World))
    (world : World) (unique : UniqueNames host.hostedEndpoints)
    (succeeds : (run (reconcile client?) host owner world).1 = .ok ()) :
    let after := run (reconcile client?) host owner world
    ∃ (hostId ownerId : ClusterIdentity) (addresses : List IpAddress),
      ClusterIdentity.ofCluster host = .ok hostId ∧
      ClusterIdentity.ofCluster owner = .ok ownerId ∧
      (let wanted := endpointsFor hostId ownerId (openLinks host owner)
        let endpoints := (host.hostedEndpoints ++ newcomers wanted host.hostedEndpoints).filter
          (¬ ·.IsLooseEndOf owner)
        after.2.1.hostedEndpoints = endpoints ∧ after.2.1 = host.withEndpoints endpoints) ∧
      HasAsked host (openLinks host owner) (noted client? host owner world)
        (addresses.map .ok) ∧
      after.2.2.1 = owner.recording .toApiServer addresses.getLast? := by
  intro after
  obtain ⟨directory, links, hosts, owns⟩ := directories_of_run_ok succeeds
  obtain ⟨free, found⟩ := (run_reconcile_ok_iff hosts owns world).mp succeeds
  have afterIs : after = _ := run_reconcile_of_ok hosts owns succeeds
  have settled := settle_eq hosts owns unique
  refine ⟨directory.identity, links.identity, (lookUps client? directory links world).addresses,
    ?_, ?_, ⟨?_, ?_⟩, hasAsked_of_ok hosts owns free found, ?_⟩
  · exact (EndpointDirectory.ofCluster_eq_ok_iff.mp hosts).1
  · exact (LinkDirectory.ofCluster_eq_ok_iff.mp owns).1
  · rw [afterIs, EndpointDirectory.hostedEndpoints_withSubnets_update hosts, settled]
  · rw [afterIs, EndpointDirectory.withSubnets_update hosts, settled]
  · rw [afterIs, LinkDirectory.withAnnotations_recordAll _ _ owns]

open Landscape in
/-- The pass for the crimson cluster drops the endpoint of the red one and leaves its own. -/
theorem connected_after_crimson :
    let after := run (reconcile (some client)) connected crimson ()
    UniqueNames connected.hostedEndpoints ∧ after.1 = .ok () ∧
      after.2.1.hostedEndpoints.map (·.name) = [PrivateEndpoint.nameFor "web"] ∧
      ∃ addresses : List IpAddress,
        HasAsked connected (openLinks connected crimson)
          (noted (some client) connected crimson ()) (addresses.map .ok) ∧
        after.2.2.1 = crimson.recording .toApiServer addresses.getLast? ∧
        after.2.2.1.annotation? Conventions.apiServerAddress = some "10.0.0.4" := by
  have unique : UniqueNames connected.hostedEndpoints := by
    decide +kernel
  have succeeds : (run (reconcile (some client)) connected crimson ()).1 = .ok () := by
    decide +kernel
  obtain ⟨hostId, ownerId, addresses, named, named', ⟨endpoints, -⟩, asked, recorded⟩ :=
    result_of_ok connected crimson (some client) () unique succeeds
  refine ⟨unique, succeeds, ?_, addresses, asked, recorded, by decide +kernel⟩
  cases named
  cases named'
  rw [endpoints]
  decide +kernel

/-- A pass that fails has met an obstacle and left both clusters alone, or it has stopped at the
first endpoint without an address. Then everything is there that it wanted up to this endpoint,
nothing was removed, and the address that was found last is on record. -/
theorem result_of_error (host owner : Cluster) (directory : EndpointDirectory)
    (links : LinkDirectory) (hosts : EndpointDirectory.ofCluster host = .ok directory)
    (owns : LinkDirectory.ofCluster owner = .ok links) (client : EndpointsClient World)
    (world : World) (error : Error)
    (fails : (run (reconcile (some client)) host owner world).1 = .error error) :
    let after := run (reconcile (some client)) host owner world
    let notes := noted (some client) host owner world
    let allowed := openLinks host owner
    let ready := Condition.holds owner.conditions Conventions.linksReadyCondition
    let untouched := after.2.1 = host ∧ after.2.2.1 = owner ∧ notes = []
    (allowed = [] ∧ owner.privateLinks ≠ [] ∧ error = .subscriptionNotAuthorized
        directory.identity.name host.spec.subscriptionId links.identity.name ∧ untouched) ∨
      (allowed ≠ [] ∧ ready = false ∧ error = .linksNotReady links.identity.name ∧ untouched) ∨
      (allowed ≠ [] ∧ ready = true ∧
        ∃ addresses : List IpAddress, addresses.length < allowed.length ∧
          let tried := allowed.take (addresses.length + 1)
          let wanted := endpointsFor directory.identity links.identity tried
          let endpoints := host.hostedEndpoints ++ newcomers wanted host.hostedEndpoints
          HasAsked host tried notes (addresses.map .ok ++ [.error error]) ∧
            after.2.1.hostedEndpoints = endpoints ∧ after.2.1 = host.withEndpoints endpoints ∧
            after.2.2.1 = owner.recording .toApiServer addresses.getLast?) := by
  intro after notes allowed ready untouched
  have afterIs : after = _ := run_reconcile_eq (some client) hosts owns world
  have ended : after.1 = .error error := fails
  cases obstacle : obstacle? directory.identity links with
  | some other =>
      have nothing : notes = [] := noted_of_obstacle hosts owns obstacle
      rw [obstacle] at afterIs
      rw [afterIs, Except.error.injEq] at ended
      subst ended
      have unchanged : untouched := by
        refine ⟨?_, ?_, nothing⟩ <;> rw [afterIs]
      obtain ⟨noLink, declared, isError⟩ | ⟨someLink, notReady, isError⟩ :=
        obstacle?_cases hosts owns obstacle
      · exact .inl ⟨noLink, declared, isError, unchanged⟩
      · exact .inr (.inl ⟨someLink, notReady, isError, unchanged⟩)
  | none =>
      simp only [obstacle] at afterIs
      have stops : (lookUps (some client) directory links world).result = .error error := by
        rwa [afterIs] at ended
      obtain ⟨fewer, asked⟩ := hasAsked_of_error hosts owns obstacle stops
      have added := adjust_of_error hosts owns stops host.hostedEndpoints
      have someLink : allowed ≠ [] := List.ne_nil_of_length_pos (Nat.zero_lt_of_lt fewer)
      refine .inr (.inr ⟨someLink, ready_of_free hosts owns obstacle someLink, _, fewer, asked,
        ?_, ?_, ?_⟩)
      · rw [afterIs, EndpointDirectory.hostedEndpoints_withSubnets_update hosts, added]
      · rw [afterIs, EndpointDirectory.withSubnets_update hosts, added]
      · rw [afterIs, LinkDirectory.withAnnotations_recordAll _ _ owns]

open Landscape in
/-- The pass for the violet cluster stops at the second link. The endpoint for it is there all the
same, and the address for the first one is on record. -/
theorem management_after_violet :
    let after := run (reconcile (some hesitant)) management violet ()
    let lookUps := noted (some hesitant) management violet ()
    ∃ (directory : EndpointDirectory) (links : LinkDirectory) (addresses : List IpAddress),
      EndpointDirectory.ofCluster management = .ok directory ∧
      LinkDirectory.ofCluster violet = .ok links ∧
      after.1 = .error (.endpointNotFound (PrivateEndpoint.nameFor "web")) ∧
      HasAsked management ((openLinks management violet).take (addresses.length + 1)) lookUps
        (addresses.map .ok ++ [.error (.endpointNotFound (PrivateEndpoint.nameFor "web"))]) ∧
      after.2.2.1 = violet.recording .toApiServer addresses.getLast? ∧
      after.2.1.hostedEndpoints.map (·.name) =
        [PrivateEndpoint.nameFor "api", PrivateEndpoint.nameFor "web"] ∧
      after.2.2.1.annotation? Conventions.apiServerAddress = some "10.0.0.4" := by
  have fails : (run (reconcile (some hesitant)) management violet ()).1 =
      .error (.endpointNotFound (PrivateEndpoint.nameFor "web")) := by
    decide +kernel
  obtain ⟨noLink, -⟩ | ⟨-, notReady, -⟩ | ⟨-, -, addresses, -, asked, -, -, recorded⟩ :=
    result_of_error management violet _ _ rfl rfl hesitant () _ fails
  · exact absurd noLink (by decide +kernel)
  · exact absurd notReady (by decide +kernel)
  · exact ⟨_, _, addresses, rfl, rfl, fails, asked, recorded, by decide +kernel, by decide +kernel⟩

end Pass

end ClusterLinks
