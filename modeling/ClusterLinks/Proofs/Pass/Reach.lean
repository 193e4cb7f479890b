import ClusterLinks.Proofs.Pass.Histories

/-!
# Which links a host reaches

After a pass that succeeds, the host has an endpoint for every name that the links of the owner ask
for. Names follow from links alone, though, and an endpoint that is there already is left as it
is. So the host reaches a link of the owner unless an endpoint by the same name was made for a
cluster somewhere else, and has not been removed since.
-/

namespace ClusterLinks.Pass

open Endpoints

variable {World : Type} {client? : Option (EndpointsClient World)} {world : World}
variable {host owner : Cluster} {directory : EndpointDirectory} {links : LinkDirectory}

/-- A wanted endpoint is found by its name, or another one that was wanted under that name. -/
theorem find?_wanted {identity : ClusterIdentity} {link : PrivateLink}
    (owns : LinkDirectory.ofCluster owner = .ok links)
    (allowed : link ∈ links.allowing identity.subscriptionId) :
    ∃ endpoint, (wanted identity links).find? (·.name == endpoint.name) = some endpoint ∧
      endpoint.name = PrivateEndpoint.nameFor link.name ∧ endpoint.IsMadeFor owner := by
  have member : PrivateEndpoint.forApiServer identity links.identity link ∈ wanted identity links :=
    mem_wanted.mpr ⟨link, allowed, rfl⟩
  have some : ((wanted identity links).find?
      (·.name == PrivateEndpoint.nameFor link.name)).isSome = true := by
    rw [List.find?_isSome]
    exact ⟨_, member, by simp⟩
  rcases Option.isSome_iff_exists.mp some with ⟨endpoint, found⟩
  have named : endpoint.name = PrivateEndpoint.nameFor link.name := by
    simpa using List.find?_some found
  refine ⟨endpoint, ?_, named, ?_⟩
  · rwa [named]
  · exact isMadeFor_of_mem_wanted owns (List.mem_of_find?_eq_some found)

/-- The address that stays on record was found for the last link that allows the host. -/
theorem address_of_ok (succeeds : (run (reconcile client?) host owner world).1 = .ok ())
    {link : PrivateLink}
    (isLast : (PrivateLink.allowing owner.privateLinks host.spec.subscriptionId).getLast? =
      some link) :
    ∃ address,
      IsAddressOf client? host.spec.resourceGroup (PrivateEndpoint.nameFor link.name) address ∧
        (run (reconcile client?) host owner world).2.2.1.annotation? Conventions.apiServerAddress =
          some address.toText := by
  rcases directories_of_run_ok succeeds with ⟨directory, links, hosts, owns⟩
  rcases (run_reconcile_ok_iff hosts owns world).mp succeeds with ⟨-, found⟩
  have lastName : ((wanted directory.identity links).map (·.name)).getLast? =
      some (PrivateEndpoint.nameFor link.name) := by
    rw [wanted, allowing_of_ofCluster hosts owns, List.map_map, List.getLast?_map, isLast]
    rfl
  rcases Search.getLast?_addresses found lastName with ⟨address, asked, last, answered⟩
  refine ⟨address, ?_, ?_⟩
  · rw [← (EndpointDirectory.place_of_ofCluster hosts).2]
    exact isAddressOf_of_resolve answered
  · rw [run_reconcile_of_ok hosts owns succeeds, LinkDirectory.recordAll_eq]
    unfold lookUps
    rw [last]
    exact LinkDirectory.recorded?_record _ _ _

/-! ## Names that are taken -/

section Taken

variable {calls : List (PassCall World)} {link : PrivateLink}

/-- An endpoint that is named for a link of the owner outlives a pass for the owner that
succeeds. -/
theorem mem_hostedEndpoints_of_named (explains : PassCall.Explains calls host.hostedEndpoints)
    (callsPlain : ∀ call ∈ calls, call.owner.HasPlainPlace) (ownerPlain : owner.HasPlainPlace)
    (succeeds : (run (reconcile client?) host owner world).1 = .ok ())
    (published : link ∈ owner.privateLinks) {endpoint : PrivateEndpoint}
    (present : endpoint ∈ host.hostedEndpoints)
    (named : endpoint.name = PrivateEndpoint.nameFor link.name) :
    endpoint ∈ (run (reconcile client?) host owner world).2.1.hostedEndpoints := by
  rcases directories_of_run_ok succeeds with ⟨directory, links, hosts, owns⟩
  rcases explains.made endpoint present with ⟨call, among, made⟩
  rw [hostedEndpoints_of_ok hosts owns succeeds, mem_settle explains.unique]
  exact .inl ⟨present,
    not_isStale_of_isMadeFor owns ownerPlain (callsPlain call among) made published named⟩

/-- A free name goes to an endpoint that connects to the link of the owner. -/
theorem reaches_of_free (explains : PassCall.Explains calls host.hostedEndpoints)
    (succeeds : (run (reconcile client?) host owner world).1 = .ok ())
    (allowed : link ∈ PrivateLink.allowing owner.privateLinks host.spec.subscriptionId)
    (free : has (PrivateEndpoint.nameFor link.name) host.hostedEndpoints = false) :
    (run (reconcile client?) host owner world).2.1.Reaches owner link.name := by
  rcases directories_of_run_ok succeeds with ⟨directory, links, hosts, owns⟩
  rw [← allowing_of_ofCluster hosts owns] at allowed
  rcases find?_wanted owns allowed with ⟨endpoint, found, named, made⟩
  refine ⟨endpoint, ?_, named, ?_⟩
  · rw [hostedEndpoints_of_ok hosts owns succeeds, mem_settle explains.unique]
    rw [named] at found ⊢
    exact .inr ⟨free, found⟩
  · exact ((made.connectsOnlyTo named).connectsTo_iff _).mpr rfl

/-- Where everything is explained by passes, an endpoint that is named for a link shows that some
owner of a pass is reached by that name. -/
theorem reaches_of_named (explains : PassCall.Explains calls host.hostedEndpoints)
    {endpoint : PrivateEndpoint} {name : String} (present : endpoint ∈ host.hostedEndpoints)
    (named : endpoint.name = PrivateEndpoint.nameFor name) :
    ∃ call ∈ calls, host.Reaches call.owner name ∧
      endpoint.ConnectsOnlyTo (call.owner.linkId name) := by
  rcases explains.made endpoint present with ⟨call, among, made⟩
  have only := made.connectsOnlyTo named
  exact ⟨call, among, ⟨endpoint, present, named, (only.connectsTo_iff _).mpr rfl⟩, only⟩

/-- A name that is taken by an endpoint to some other place stays taken. -/
theorem reaches_other_of_taken (explains : PassCall.Explains calls host.hostedEndpoints)
    (callsPlain : ∀ call ∈ calls, call.owner.HasPlainPlace) (ownerPlain : owner.HasPlainPlace)
    (succeeds : (run (reconcile client?) host owner world).1 = .ok ())
    (published : link ∈ owner.privateLinks) (call : PassCall World) (among : call ∈ calls)
    (taken : host.Reaches call.owner link.name) (elsewhere : call.owner.place ≠ owner.place) :
    (run (reconcile client?) host owner world).2.1.Reaches call.owner link.name ∧
      ¬ (run (reconcile client?) host owner world).2.1.Reaches owner link.name := by
  rcases taken with ⟨earlier, wasThere, earlierNamed, led⟩
  have stillThere := mem_hostedEndpoints_of_named explains callsPlain ownerPlain succeeds published
    wasThere earlierNamed
  refine ⟨⟨earlier, stillThere, earlierNamed, led⟩, ?_⟩
  intro ownerReached
  rcases ownerReached with ⟨endpoint, present, named, connects⟩
  have unique := (explains.snoc (.reconcile client? owner world)
    (onlyAddsFor_reconcile client? host owner world)).unique
  have same : earlier = endpoint :=
    unique.eq_of_name stillThere present (earlierNamed.trans named.symm)
  subst same
  rcases reaches_of_named explains wasThere earlierNamed with ⟨maker, -, -, only⟩
  rw [only.connectsTo_iff] at connects led
  exact elsewhere (Cluster.place_eq_of_linkId_eq (callsPlain call among) ownerPlain
    (led.trans connects.symm))

/-- Of two clusters whose links share a name, the first one to be reconciled is reached, and the
second one is not. -/
theorem reaches_first_of_shared_name {first second : Cluster} {world' : World}
    {client?' : Option (EndpointsClient World)} (fresh : host.hostedEndpoints = [])
    (firstPlain : first.HasPlainPlace) (secondPlain : second.HasPlainPlace)
    (elsewhere : first.place ≠ second.place)
    (firstSucceeds : (run (reconcile client?) host first world).1 = .ok ())
    (secondSucceeds :
      (run (reconcile client?') (run (reconcile client?) host first world).2.1 second world').1 =
        .ok ())
    (link link' : PrivateLink)
    (allowed : link' ∈ PrivateLink.allowing first.privateLinks host.spec.subscriptionId)
    (published : link ∈ second.privateLinks) (sameName : link'.name = link.name) :
    let before := (run (reconcile client?) host first world).2.1
    let after := run (reconcile client?') before second world'
    after.2.1.Reaches first link.name ∧ ¬ after.2.1.Reaches second link.name := by
  have nothing : PassCall.Explains ([] : List (PassCall World)) host.hostedEndpoints :=
    PassCall.explains_hostAfterAll [] fresh
  have explains := nothing.snoc (.reconcile client? first world)
    (onlyAddsFor_reconcile client? host first world)
  have firstReached : (run (reconcile client?) host first world).2.1.Reaches first link.name := by
    rw [← sameName]
    apply reaches_of_free nothing firstSucceeds allowed
    rw [fresh]
    rfl
  refine reaches_other_of_taken explains ?_ secondPlain secondSucceeds published
    (.reconcile client? first world) (by simp) firstReached elsewhere
  intro other among
  rw [List.nil_append, List.mem_singleton] at among
  rwa [among]

end Taken

/-! ## After any history -/

/-- After any history of passes and one more pass that succeeds, names are unique. The host reaches
a link of the owner that allows it exactly if it did not reach, by the name of that link, a cluster
somewhere else for which there was a pass before. The address on record was found for the name of
the last such link. -/
theorem reaches_iff_of_history (calls : List (PassCall World)) (host owner : Cluster)
    (client? : Option (EndpointsClient World)) (world : World)
    (fresh : host.hostedEndpoints = [])
    (callsPlain : ∀ call ∈ calls, call.owner.HasPlainPlace) (ownerPlain : owner.HasPlainPlace)
    (succeeds :
      (run (reconcile client?) (PassCall.hostAfterAll calls host) owner world).1 = .ok ()) :
    let before := PassCall.hostAfterAll calls host
    let after := run (reconcile client?) before owner world
    let allowed := PrivateLink.allowing owner.privateLinks host.spec.subscriptionId
    UniqueNames after.2.1.hostedEndpoints ∧
      (∀ link ∈ allowed,
        (after.2.1.Reaches owner link.name ↔
          ∀ call ∈ calls, before.Reaches call.owner link.name → call.owner.place = owner.place)) ∧
      (∀ link ∈ allowed.getLast?, ∃ address,
        IsAddressOf client? host.spec.resourceGroup (PrivateEndpoint.nameFor link.name) address ∧
          after.2.2.1.annotation? Conventions.apiServerAddress = some address.toText) := by
  intro before after allowed
  have explains : PassCall.Explains calls before.hostedEndpoints :=
    PassCall.explains_hostAfterAll calls fresh
  have samePlace : before.place = host.place := PassCall.place_hostAfterAll calls host
  rcases Prod.mk.inj samePlace with ⟨sameSubscription, sameGroup⟩
  have unique : UniqueNames after.2.1.hostedEndpoints :=
    (explains.snoc (.reconcile client? owner world)
      (onlyAddsFor_reconcile client? before owner world)).unique
  refine ⟨unique, ?_, ?_⟩
  · intro link isAllowed
    have published : link ∈ owner.privateLinks := List.mem_of_mem_filter isAllowed
    constructor
    · intro reached call among taken
      by_contra elsewhere
      have notOwner := reaches_other_of_taken explains callsPlain ownerPlain succeeds published call
        among taken elsewhere
      exact notOwner.2 reached
    · intro nobodyElse
      cases taken : has (PrivateEndpoint.nameFor link.name) before.hostedEndpoints with
      | false =>
          apply reaches_of_free explains succeeds _ taken
          rw [sameSubscription]
          exact isAllowed
      | true =>
          rcases has_iff.mp taken with ⟨endpoint, present, named⟩
          rcases reaches_of_named explains present named with ⟨call, among, reached, only⟩
          refine ⟨endpoint, ?_, named, ?_⟩
          · exact mem_hostedEndpoints_of_named explains callsPlain ownerPlain succeeds published
              present named
          · rw [only.connectsTo_iff]
            exact (Cluster.linkId_of_place_eq (nobodyElse call among reached) link.name).symm
  · intro link isLast
    rw [← sameGroup]
    apply address_of_ok succeeds
    rw [sameSubscription]
    exact isLast

open Landscape in
/-- A cluster is reached if the passes before were for links by other names. -/
theorem reaches_blue_after_green :
    (run (reconcile (some client))
      (PassCall.hostAfterAll [.reconcile (some client) green ()] management) blue ()).2.1.Reaches
        blue "api" := by
  have reaches := (reaches_iff_of_history [.reconcile (some client) green ()] management blue
    (some client) () rfl (by decide +kernel) (by decide +kernel) (by decide +kernel)).2.1
    ⟨"api", ["hub"], [], ∅⟩ (by decide +kernel)
  apply reaches.mpr
  decide +kernel

open Landscape in
/-- The cluster that comes second is told the address of the endpoint that reaches the first one,
and is not reached itself. -/
theorem reaches_red_instead_of_blue :
    ((run (reconcile (some client)) management red ()).1 = .ok () ∧
      (run (reconcile (some client)) (run (reconcile (some client)) management red ()).2.1 blue
        ()).1 = .ok ()) ∧
    ((run (reconcile (some client)) (run (reconcile (some client)) management red ()).2.1 blue
        ()).2.1.Reaches red "api" ∧
      ¬ (run (reconcile (some client)) (run (reconcile (some client)) management red ()).2.1 blue
        ()).2.1.Reaches blue "api") ∧
    (run (reconcile (some client)) (run (reconcile (some client)) management red ()).2.1 blue
      ()).2.2.1.annotation? Conventions.apiServerAddress = some "10.0.0.4" := by
  have redSucceeds : (run (reconcile (some client)) management red ()).1 = .ok () := by
    decide +kernel
  have blueSucceeds : (run (reconcile (some client))
      (run (reconcile (some client)) management red ()).2.1 blue ()).1 = .ok () := by
    decide +kernel
  refine ⟨⟨redSucceeds, blueSucceeds⟩, ?_, by decide +kernel⟩
  exact reaches_first_of_shared_name rfl (by decide +kernel) (by decide +kernel)
    (by decide +kernel) redSucceeds blueSucceeds ⟨"api", ["hub"], [], ∅⟩ ⟨"api", ["hub"], [], ∅⟩
    (by decide +kernel) (by decide +kernel) rfl

end ClusterLinks.Pass
