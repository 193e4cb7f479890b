import ClusterLinks.Proofs.Pass.Histories

/-!
# Passes for different owners

Two clusters that live in different places and publish links by different names do not notice each
other's passes. Neither pass removes what the other one adds, and neither takes a name that the
other one wants, so the order of the passes shows in nothing but the order of the endpoints.
-/

namespace ClusterLinks

open Endpoints

namespace Cluster

/-- The clusters live in different places and share no name of a link. -/
structure Apart (first second : Cluster) : Prop where
  firstPlain : first.HasPlainPlace
  secondPlain : second.HasPlainPlace
  places : first.place ≠ second.place
  names : ∀ link ∈ first.privateLinks, ∀ link' ∈ second.privateLinks, link.name ≠ link'.name

theorem Apart.symm {first second : Cluster} (apart : Apart first second) : Apart second first where
  firstPlain := apart.secondPlain
  secondPlain := apart.firstPlain
  places := apart.places.symm
  names link member link' member' := (apart.names link' member' link member).symm

/-- Every endpoint that is named for a link of the cluster connects to that link alone. -/
def HoldsItsNames (owner : Cluster) (endpoints : List PrivateEndpoint) : Prop :=
  ∀ endpoint ∈ endpoints, ∀ link ∈ owner.privateLinks,
    endpoint.name = PrivateEndpoint.nameFor link.name →
      endpoint.ConnectsOnlyTo (owner.linkId link.name)

instance (owner : Cluster) (endpoints : List PrivateEndpoint) :
    Decidable (owner.HoldsItsNames endpoints) :=
  inferInstanceAs (Decidable (∀ endpoint ∈ endpoints, ∀ link ∈ owner.privateLinks, _ → _))

end Cluster

namespace Pass

/-! ## Two rows of wanted endpoints -/

section Settling

variable {first second : Cluster} {links links' : LinkDirectory} {identity : ClusterIdentity}
variable {endpoints : List PrivateEndpoint} {endpoint : PrivateEndpoint} {name : String}

/-- What one cluster wants is not stale for the other one. -/
theorem not_isStale_of_wanted_elsewhere (apart : Cluster.Apart first second)
    (firstOwns : LinkDirectory.ofCluster first = .ok links)
    (secondOwns : LinkDirectory.ofCluster second = .ok links')
    (member : endpoint ∈ wanted identity links) : isStale links' endpoint = false := by
  rcases isMadeFor_of_mem_wanted firstOwns member with ⟨link, -, -, only⟩
  exact not_isStale_of_elsewhere secondOwns only apart.secondPlain apart.firstPlain apart.places

/-- What one cluster wants bears no name that the other one wants. -/
theorem has_wanted_elsewhere (apart : Cluster.Apart first second)
    (firstOwns : LinkDirectory.ofCluster first = .ok links)
    (secondOwns : LinkDirectory.ofCluster second = .ok links')
    (isWanted : has name (wanted identity links') = true) :
    has name (wanted identity links) = false := by
  apply has_eq_false_iff.mpr
  intro other member sameName
  rcases has_iff.mp isWanted with ⟨wantedOne, wantedMember, rfl⟩
  rcases isMadeFor_of_mem_wanted firstOwns member with ⟨link, published, named, -⟩
  rcases isMadeFor_of_mem_wanted secondOwns wantedMember with ⟨link', published', named', -⟩
  apply apart.names link published link' published'
  rw [named, named', PrivateEndpoint.nameFor_inj] at sameName
  exact sameName

/-- A pass for one cluster neither frees nor takes a name that the other one wants. -/
theorem has_settle_of_wanted_elsewhere (apart : Cluster.Apart first second)
    (firstOwns : LinkDirectory.ofCluster first = .ok links)
    (secondOwns : LinkDirectory.ofCluster second = .ok links')
    (unique : UniqueNames endpoints) (holds : second.HoldsItsNames endpoints)
    (isWanted : has name (wanted identity links') = true) :
    has name (settle identity links endpoints) = has name endpoints := by
  have notWanted := has_wanted_elsewhere apart firstOwns secondOwns isWanted
  rw [Bool.eq_iff_iff, has_iff, has_iff]
  constructor
  · intro after
    rcases after with ⟨endpoint, member, rfl⟩
    rcases (mem_settle unique).mp member with ⟨present, -⟩ | ⟨-, found⟩
    · exact ⟨endpoint, present, rfl⟩
    · have isThere : has endpoint.name (wanted identity links) = true :=
        has_iff.mpr ⟨endpoint, List.mem_of_find?_eq_some found, rfl⟩
      rw [notWanted] at isThere
      cases isThere
  · intro before
    rcases before with ⟨endpoint, present, rfl⟩
    rcases has_iff.mp isWanted with ⟨wantedOne, member, sameName⟩
    rcases isMadeFor_of_mem_wanted secondOwns member with ⟨link, published, named, -⟩
    have only := holds endpoint present link published (sameName.symm.trans named)
    have notStale : isStale links endpoint = false :=
      not_isStale_of_elsewhere firstOwns only apart.firstPlain apart.secondPlain apart.places.symm
    exact ⟨endpoint, (mem_settle unique).mpr (.inl ⟨present, notStale⟩), rfl⟩

/-- What two passes leave, said without regard to their order. -/
theorem mem_settle_settle (apart : Cluster.Apart first second)
    (firstOwns : LinkDirectory.ofCluster first = .ok links)
    (secondOwns : LinkDirectory.ofCluster second = .ok links')
    (unique : UniqueNames endpoints) (holds : second.HoldsItsNames endpoints) :
    endpoint ∈ settle identity links' (settle identity links endpoints) ↔
      (endpoint ∈ endpoints ∧ isStale links endpoint = false ∧ isStale links' endpoint = false) ∨
        (has endpoint.name endpoints = false ∧
          ((wanted identity links).find? (·.name == endpoint.name) = some endpoint ∨
            (wanted identity links').find? (·.name == endpoint.name) = some endpoint)) := by
  rw [mem_settle (UniqueNames.settle unique identity links), mem_settle unique]
  have sameFree (found : (wanted identity links').find? (·.name == endpoint.name) = some endpoint) :
      has endpoint.name (settle identity links endpoints) = has endpoint.name endpoints := by
    apply has_settle_of_wanted_elsewhere apart firstOwns secondOwns unique holds
    exact has_iff.mpr ⟨endpoint, List.mem_of_find?_eq_some found, rfl⟩
  constructor
  · intro member
    rcases member with ⟨⟨present, notStale⟩ | ⟨free, found⟩, notStale'⟩ | ⟨free, found⟩
    · exact .inl ⟨present, notStale, notStale'⟩
    · exact .inr ⟨free, .inl found⟩
    · rw [sameFree found] at free
      exact .inr ⟨free, .inr found⟩
  · intro origin
    rcases origin with ⟨present, notStale, notStale'⟩ | ⟨free, found | found⟩
    · exact .inl ⟨.inl ⟨present, notStale⟩, notStale'⟩
    · have notStale' := not_isStale_of_wanted_elsewhere apart firstOwns secondOwns
        (List.mem_of_find?_eq_some found)
      exact .inl ⟨.inr ⟨free, found⟩, notStale'⟩
    · rw [← sameFree found] at free
      exact .inr ⟨free, found⟩

/-- The order of two passes shows in nothing but the order of the endpoints. -/
theorem settle_perm (apart : Cluster.Apart first second)
    (firstOwns : LinkDirectory.ofCluster first = .ok links)
    (secondOwns : LinkDirectory.ofCluster second = .ok links')
    (unique : UniqueNames endpoints) (firstHolds : first.HoldsItsNames endpoints)
    (secondHolds : second.HoldsItsNames endpoints) :
    (settle identity links' (settle identity links endpoints)).Perm
      (settle identity links (settle identity links' endpoints)) := by
  have oneWay := UniqueNames.settle (UniqueNames.settle unique identity links) identity links'
  have otherWay := UniqueNames.settle (UniqueNames.settle unique identity links') identity links
  apply (List.perm_ext_iff_of_nodup oneWay.nodup otherWay.nodup).mpr
  intro endpoint
  rw [mem_settle_settle apart firstOwns secondOwns unique secondHolds,
    mem_settle_settle apart.symm secondOwns firstOwns unique firstHolds,
    and_comm (a := isStale links endpoint = false), or_comm (a := List.find? _ _ = some endpoint)]

end Settling

/-! ## Two passes -/

section Commuting

variable {World : Type} {client? : Option (EndpointsClient World)} {host first second : Cluster}

/-- A pass that succeeds also succeeds after a pass for another owner, leaves its own owner as it
would have without, and settles the endpoints that the other pass left. -/
theorem run_reconcile_after (steady : ∀ client ∈ client?, client.IsSteady)
    {directory : EndpointDirectory} {links links' : LinkDirectory}
    (hosts : EndpointDirectory.ofCluster host = .ok directory)
    (firstOwns : LinkDirectory.ofCluster first = .ok links)
    (secondOwns : LinkDirectory.ofCluster second = .ok links') {world : World}
    (succeeds : (run (reconcile client?) host first world).1 = .ok ()) (alone world' : World) :
    let before := (run (reconcile client?) host first world).2.1
    let after := run (reconcile client?) before second world'
    after.1 = (run (reconcile client?) host second alone).1 ∧
      after.2.2.1 = (run (reconcile client?) host second alone).2.2.1 ∧
      (after.1 = .ok () → after.2.1.hostedEndpoints =
        settle directory.identity links'
          (settle directory.identity links host.hostedEndpoints)) := by
  have reached : (run (reconcile client?) host first world).2.1 =
      host.withSubnets (directory.update (settle directory.identity links)).subnets := by
    rw [run_reconcile_of_ok hosts firstOwns succeeds]
  rw [reached]
  intro before after
  rcases run_reconcile_of_other_endpoints steady hosts secondOwns
    (settle directory.identity links) alone world' with ⟨sameResult, sameOwner⟩
  refine ⟨sameResult, sameOwner, ?_⟩
  intro afterSucceeds
  have hostsAfter := EndpointDirectory.ofCluster_update hosts (settle directory.identity links)
  rw [hostedEndpoints_of_ok hostsAfter secondOwns afterSucceeds,
    EndpointDirectory.hostedEndpoints_withSubnets_update hosts, EndpointDirectory.identity_update]

/-- Passes for two clusters that are apart can be run in either order: the host ends up with the
same endpoints, in some order, and each of the two clusters is left the same. -/
theorem reconcile_comm (host first second : Cluster) (client? : Option (EndpointsClient World))
    (steady : ∀ client ∈ client?, client.IsSteady) (apart : Cluster.Apart first second)
    (unique : UniqueNames host.hostedEndpoints)
    (firstHolds : first.HoldsItsNames host.hostedEndpoints)
    (secondHolds : second.HoldsItsNames host.hostedEndpoints)
    (world₁ world₂ world₃ world₄ : World)
    (firstSucceeds : (run (reconcile client?) host first world₁).1 = .ok ())
    (secondSucceeds :
      (run (reconcile client?) (run (reconcile client?) host first world₁).2.1 second world₂).1 =
        .ok ()) :
    let first₁ := run (reconcile client?) host first world₁
    let second₁ := run (reconcile client?) first₁.2.1 second world₂
    let second₂ := run (reconcile client?) host second world₃
    let first₂ := run (reconcile client?) second₂.2.1 first world₄
    second₂.1 = .ok () ∧ first₂.1 = .ok () ∧
      second₁.2.1.hostedEndpoints.Perm first₂.2.1.hostedEndpoints ∧
      first₂.2.2.1 = first₁.2.2.1 ∧ second₂.2.2.1 = second₁.2.2.1 := by
  intro first₁ second₁ second₂ first₂
  rcases directories_of_run_ok firstSucceeds with ⟨directory, links, hosts, firstOwns⟩
  rcases directories_of_run_ok secondSucceeds with ⟨-, links', -, secondOwns⟩
  rcases run_reconcile_after steady hosts firstOwns secondOwns firstSucceeds world₃ world₂
    with ⟨secondResult, secondOwner, oneWay⟩
  have secondAlone : second₂.1 = .ok () := secondResult.symm.trans secondSucceeds
  rcases run_reconcile_after steady hosts secondOwns firstOwns secondAlone world₁ world₄
    with ⟨firstResult, firstOwner, otherWay⟩
  have firstAfter : first₂.1 = .ok () := firstResult.trans firstSucceeds
  refine ⟨secondAlone, firstAfter, ?_, firstOwner, secondOwner.symm⟩
  rw [oneWay secondSucceeds, otherWay firstAfter]
  exact settle_perm apart firstOwns secondOwns unique firstHolds secondHolds

open Landscape in
/-- Where the red cluster is connected already, it does not matter whether its pass comes before
the one for the green cluster. -/
theorem reconcile_comm_red_green :
    let first₁ := run (reconcile (some client)) connected red ()
    let second₁ := run (reconcile (some client)) first₁.2.1 green ()
    let second₂ := run (reconcile (some client)) connected green ()
    let first₂ := run (reconcile (some client)) second₂.2.1 red ()
    second₂.1 = .ok () ∧ first₂.1 = .ok () ∧
      second₁.2.1.hostedEndpoints.Perm first₂.2.1.hostedEndpoints ∧
      first₂.2.2.1 = first₁.2.2.1 ∧ second₂.2.2.1 = second₁.2.2.1 := by
  have apart : Cluster.Apart red green :=
    ⟨by decide +kernel, by decide +kernel, by decide +kernel, by decide +kernel⟩
  exact reconcile_comm connected red green (some client) steady apart (by decide +kernel)
    (by decide +kernel) (by decide +kernel) () () () () (by decide +kernel) (by decide +kernel)

end Commuting

end Pass

end ClusterLinks
