import ClusterLinks.Proofs.Pass.Histories

/-!
# Passes that are repeated

Unused endpoints are removed after the wanted ones were added, so a pass might take back what it
just called for. It does not: a wanted endpoint, or whatever holds its name, survives the pass. The
next pass finds every name taken and nothing left to remove.
-/

namespace ClusterLinks.Pass

open Endpoints

variable {World : Type} {client? : Option (EndpointsClient World)}
variable {host : ClusterIdentity} {links : LinkDirectory} {endpoints : List PrivateEndpoint}

/-- No endpoint that bears a wanted name is stale. -/
def SparesWanted (host : ClusterIdentity) (links : LinkDirectory)
    (endpoints : List PrivateEndpoint) : Prop :=
  ∀ endpoint ∈ endpoints, has endpoint.name (wanted host links) = true →
    isStale links endpoint = false

/-- Every wanted name is there after the unused endpoints are gone. -/
theorem has_settle (unique : UniqueNames endpoints) (spares : SparesWanted host links endpoints)
    {name : String} (isWanted : has name (wanted host links) = true) :
    has name (settle host links endpoints) = true := by
  have added : has name (addAll (wanted host links) endpoints) = true := by
    rw [has_addAll, isWanted, Bool.or_true]
  rcases has_iff.mp added with ⟨endpoint, member, rfl⟩
  apply has_iff.mpr
  refine ⟨endpoint, ?_, rfl⟩
  apply (mem_settle unique).mpr
  rcases mem_addAll.mp member with present | newcomer
  · exact .inl ⟨present, spares endpoint present isWanted⟩
  · exact .inr newcomer

/-- Settling again changes nothing. -/
theorem settle_settle (unique : UniqueNames endpoints)
    (spares : SparesWanted host links endpoints) :
    settle host links (settle host links endpoints) = settle host links endpoints := by
  have complete : addAll (wanted host links) (settle host links endpoints) =
      settle host links endpoints := by
    apply addAll_of_has
    intro endpoint member
    apply has_settle unique spares
    exact has_iff.mpr ⟨endpoint, member, rfl⟩
  rw [settle_of_unique (UniqueNames.settle unique host links), complete,
    settle_of_unique unique, List.filter_filter]
  simp only [Bool.and_self]

@[simp] theorem settle_recordAll (direction : Direction) (addresses : List IpAddress) :
    settle host (links.recordAll direction addresses) = settle host links := by
  funext endpoints
  simp only [settle, removeUnused_eq_removeNames, unused_eq, wanted_recordAll, isStale_recordAll]

/-- Where no stale endpoint bears a wanted name, a pass that succeeds also succeeds the next time,
and changes neither cluster. -/
theorem run_reconcile_again {cluster owner : Cluster} {directory : EndpointDirectory}
    {world : World} (steady : ∀ client ∈ client?, client.IsSteady)
    (hosts : EndpointDirectory.ofCluster cluster = .ok directory)
    (owns : LinkDirectory.ofCluster owner = .ok links)
    (unique : UniqueNames directory.endpoints)
    (spares : SparesWanted directory.identity links directory.endpoints)
    (succeeds : (run (reconcile client?) cluster owner world).1 = .ok ()) (world' : World) :
    let first := run (reconcile client?) cluster owner world
    let second := run (reconcile client?) first.2.1 first.2.2.1 world'
    second.1 = .ok () ∧ second.2.1 = first.2.1 ∧ second.2.2.1 = first.2.2.1 := by
  intro first second
  rcases (run_reconcile_ok_iff hosts owns world).mp succeeds with ⟨free, found⟩
  have firstIs := run_reconcile_of_ok hosts owns succeeds
  -- The look-ups are the same as before, since the names are the same.
  have hostsAgain : EndpointDirectory.ofCluster first.2.1 =
      .ok (directory.update (settle directory.identity links)) := by
    rw [show first = _ from firstIs]
    exact EndpointDirectory.ofCluster_update hosts _
  have ownsAgain : LinkDirectory.ofCluster first.2.2.1 =
      .ok (links.recordAll .toApiServer (lookUps client? directory links world).addresses) := by
    rw [show first = _ from firstIs]
    apply LinkDirectory.ofCluster_withAnnotations owns <;> simp
  have sameSearch := Search.run_congr (EndpointDirectory.resolve_steady steady directory)
    ((wanted directory.identity links).map (·.name)) world' world
  have lookUpsAgain (annotated : List IpAddress) :
      lookUps client? (directory.update (settle directory.identity links))
          (links.recordAll .toApiServer annotated) world' =
        lookUps client? directory links world' := by
    simp only [lookUps, EndpointDirectory.resolve_update, EndpointDirectory.identity_update,
      wanted_recordAll]
  have secondSucceeds : second.1 = .ok () := by
    apply (run_reconcile_ok_iff hostsAgain ownsAgain world').mpr
    rw [lookUpsAgain, EndpointDirectory.identity_update, obstacle?_recordAll]
    exact ⟨free, sameSearch.1.trans found⟩
  have secondIs := run_reconcile_of_ok hostsAgain ownsAgain secondSucceeds
  have sameAddresses : (lookUps client? directory links world').addresses =
      (lookUps client? directory links world).addresses := sameSearch.2
  refine ⟨secondSucceeds, ?_, ?_⟩
  · have settled : (directory.update (settle directory.identity links)).update
        (settle directory.identity links) = directory.update (settle directory.identity links) := by
      rw [EndpointDirectory.update_update]
      exact congrArg (fun kept => directory.update fun _ => kept) (settle_settle unique spares)
    rw [show second = _ from secondIs]
    simp only [EndpointDirectory.identity_update, settle_recordAll, settled]
    exact EndpointDirectory.withSubnets_subnets hostsAgain
  · rw [show second = _ from secondIs]
    simp only [lookUpsAgain, sameAddresses, LinkDirectory.recordAll_recordAll]
    exact LinkDirectory.withAnnotations_annotations ownsAgain

/-- What passes leave behind on a host that hosted nothing spares what any owner wants. -/
theorem sparesWanted_of_explains {calls : List (PassCall World)} {owner : Cluster}
    (explains : PassCall.Explains calls endpoints)
    (callsPlain : ∀ call ∈ calls, call.owner.HasPlainPlace) (ownerPlain : owner.HasPlainPlace)
    (owns : LinkDirectory.ofCluster owner = .ok links) : SparesWanted host links endpoints := by
  intro endpoint present isWanted
  rcases explains.made endpoint present with ⟨call, among, made⟩
  rcases has_iff.mp isWanted with ⟨wantedOne, member, sameName⟩
  rcases isMadeFor_of_mem_wanted owns member with ⟨link, published, named, -⟩
  exact not_isStale_of_isMadeFor owns ownerPlain (callsPlain call among) made published
    (sameName.symm.trans named)

/-- After any history of passes, some of which may have failed, repeating a pass that succeeded
succeeds, and leaves both clusters as they are. -/
theorem reconcile_again_of_history (calls : List (PassCall World)) (host owner : Cluster)
    (client? : Option (EndpointsClient World)) (world world' : World)
    (fresh : host.hostedEndpoints = [])
    (callsPlain : ∀ call ∈ calls, call.owner.HasPlainPlace) (ownerPlain : owner.HasPlainPlace)
    (steady : ∀ client ∈ client?, client.IsSteady)
    (succeeds :
      (run (reconcile client?) (PassCall.hostAfterAll calls host) owner world).1 = .ok ()) :
    let first := run (reconcile client?) (PassCall.hostAfterAll calls host) owner world
    let second := run (reconcile client?) first.2.1 first.2.2.1 world'
    second.1 = .ok () ∧ second.2.1 = first.2.1 ∧ second.2.2.1 = first.2.2.1 := by
  have explains := PassCall.explains_hostAfterAll calls fresh
  rcases directories_of_run_ok succeeds with ⟨directory, links, hosts, owns⟩
  rw [EndpointDirectory.hostedEndpoints_of_ofCluster hosts] at explains
  exact run_reconcile_again steady hosts owns explains.unique
    (sparesWanted_of_explains explains callsPlain ownerPlain owns) succeeds world'

open Landscape in
/-- After a failed pass for one cluster and the deletion of another, a pass can be repeated. -/
theorem reconcile_again_for_blue :
    let calls := [.reconcile none red (), .delete green ()]
    let first := run (reconcile (some client)) (PassCall.hostAfterAll calls management) blue ()
    let second := run (reconcile (some client)) first.2.1 first.2.2.1 ()
    second.1 = .ok () ∧ second.2.1 = first.2.1 ∧ second.2.2.1 = first.2.2.1 := by
  exact reconcile_again_of_history [.reconcile none red (), .delete green ()] management blue
    (some client) () () rfl (by decide +kernel) (by decide +kernel) steady (by decide +kernel)

end ClusterLinks.Pass
