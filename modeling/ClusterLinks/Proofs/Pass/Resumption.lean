import ClusterLinks.Proofs.Pass.Exact

/-!
# Passes that are tried again

A pass that stops at a look-up has added endpoints up to there, and it may have put an address on
record. The next attempt finds these endpoints by name and goes on. However many attempts fail, and
whatever answers they get, they leave no more than a part of what a pass does that succeeds. So the
first one that succeeds ends as if it had been the first one of all.
-/

namespace ClusterLinks

open Endpoints

variable {World : Type}

/-- An attempt to connect a host to the links of an owner: who is asked, and in which world. -/
structure Attempt (World : Type) where
  client? : Option (EndpointsClient World)
  world : World

/-- The two clusters that a pass works on. -/
structure ClusterPair where
  host : Cluster
  owner : Cluster
  deriving DecidableEq

namespace ClusterPair

/-- How an attempt ends, and the clusters as it leaves them. -/
def reconcile (attempt : Attempt World) (pair : ClusterPair) : Except Error Unit × ClusterPair :=
  let after := Pass.run (Pass.reconcile attempt.client?) pair.host pair.owner attempt.world
  (after.1, ⟨after.2.1, after.2.2.1⟩)

/-- The clusters as attempts leave them, one after the other. -/
def afterAll (attempts : List (Attempt World)) (pair : ClusterPair) : ClusterPair :=
  attempts.foldl (fun pair attempt => (pair.reconcile attempt).2) pair

/-- Every attempt fails, made on the clusters as the earlier ones have left them. -/
def AllFail : List (Attempt World) → ClusterPair → Prop
  | [], _ => True
  | attempt :: rest, pair =>
      (∃ error, (pair.reconcile attempt).1 = .error error) ∧
        AllFail rest (pair.reconcile attempt).2

end ClusterPair

namespace Pass

variable {start pair : ClusterPair} {directory : EndpointDirectory} {links : LinkDirectory}

/-- The clusters after some endpoints were added and some addresses were recorded. -/
def partly (directory : EndpointDirectory) (links : LinkDirectory) (start : ClusterPair)
    (early : List PrivateEndpoint) (addresses : List IpAddress) : ClusterPair where
  host := start.host.withSubnets (directory.update (addAll early)).subnets
  owner := start.owner.withAnnotations (links.recordAll .toApiServer addresses).annotations

/-- What attempts that failed leave behind: the endpoints that come first among the wanted ones,
and addresses only if there is a wanted endpoint to have one. -/
def IsUnderWay (directory : EndpointDirectory) (links : LinkDirectory)
    (start pair : ClusterPair) : Prop :=
  ∃ early addresses, early <+: wanted directory.identity links ∧
    (wanted directory.identity links = [] → addresses = []) ∧
    pair = partly directory links start early addresses

section Directories

variable (hosts : EndpointDirectory.ofCluster start.host = .ok directory)
  (owns : LinkDirectory.ofCluster start.owner = .ok links)

include hosts owns

theorem isUnderWay_start : IsUnderWay directory links start start := by
  have sameHost : start.host.withSubnets (directory.update (addAll [])).subnets = start.host :=
    EndpointDirectory.withSubnets_subnets hosts
  have sameOwner : start.owner.withAnnotations (links.recordAll .toApiServer []).annotations =
      start.owner :=
    LinkDirectory.withAnnotations_annotations owns
  refine ⟨[], [], List.nil_prefix, fun _ => rfl, ?_⟩
  rw [partly, sameHost, sameOwner]

/-- A pass goes on from what was done before, which its look-ups do not depend on. -/
theorem run_reconcile_partly (client? : Option (EndpointsClient World))
    (early : List PrivateEndpoint) (addresses : List IpAddress) (world : World) :
    let pair := partly directory links start early addresses
    run (reconcile client?) pair.host pair.owner world =
      match obstacle? directory.identity links with
      | some error => (.error error, pair.host, pair.owner, world)
      | none =>
          let search := lookUps client? directory links world
          (search.result,
            start.host.withSubnets (directory.update fun kept =>
              adjust directory.identity links search (addAll early kept)).subnets,
            start.owner.withAnnotations
              (links.recordAll .toApiServer (addresses ++ search.addresses)).annotations,
            search.world) := by
  intro pair
  have hostsNow : EndpointDirectory.ofCluster pair.host = .ok (directory.update (addAll early)) :=
    EndpointDirectory.ofCluster_update hosts _
  have ownsNow : LinkDirectory.ofCluster pair.owner =
      .ok (links.recordAll .toApiServer addresses) := by
    apply LinkDirectory.ofCluster_withAnnotations owns <;> simp
  have sameSearch : lookUps client? (directory.update (addAll early))
      (links.recordAll .toApiServer addresses) world = lookUps client? directory links world := by
    simp only [lookUps, EndpointDirectory.resolve_update, EndpointDirectory.identity_update,
      wanted_recordAll]
  have sameAdjust (search : Search World) :
      adjust directory.identity (links.recordAll .toApiServer addresses) search =
        adjust directory.identity links search := by
    funext kept
    simp only [adjust, settle_recordAll, wanted_recordAll]
  rw [run_reconcile_eq client? hostsNow ownsNow]
  simp only [EndpointDirectory.identity_update, obstacle?_recordAll, sameSearch, sameAdjust,
    EndpointDirectory.update_update, ← LinkDirectory.recordAll_append]
  rfl

/-- One more attempt that fails leaves no more behind than that. -/
theorem IsUnderWay.reconcile (underWay : IsUnderWay directory links start pair)
    {attempt : Attempt World} {error : Error}
    (fails : (pair.reconcile attempt).1 = .error error) :
    IsUnderWay directory links start (pair.reconcile attempt).2 := by
  obtain ⟨early, addresses, part, recorded, rfl⟩ := underWay
  have ran := run_reconcile_partly hosts owns attempt.client? early addresses attempt.world
  dsimp only at ran
  rw [ClusterPair.reconcile, ran] at fails ⊢
  cases obstacle : obstacle? directory.identity links with
  | some error => exact ⟨early, addresses, part, recorded, rfl⟩
  | none =>
      simp only [obstacle] at fails ⊢
      obtain ⟨search, isSearch⟩ :
          ∃ search, lookUps attempt.client? directory links attempt.world = search := ⟨_, rfl⟩
      have fewer := Search.length_addresses_of_error fails
      rw [isSearch] at fails ⊢
      obtain ⟨both, part', adds⟩ := exists_prefix_addAll part
        (List.take_prefix search.attempts (wanted directory.identity links))
      refine ⟨both, addresses ++ search.addresses, part', ?_, ?_⟩
      · intro nothing
        simp [nothing] at fewer
      · simp only [adjust, fails, adds]
        rfl

/-- So do attempts that fail one after the other. -/
theorem isUnderWay_afterAll (attempts : List (Attempt World))
    (underWay : IsUnderWay directory links start pair) (failed : pair.AllFail attempts) :
    IsUnderWay directory links start (pair.afterAll attempts) := by
  induction attempts generalizing pair with
  | nil => exact underWay
  | cons attempt rest ih =>
      obtain ⟨⟨error, fails⟩, later⟩ := failed
      exact ih (underWay.reconcile hosts owns fails) later

/-- Whoever goes on from there ends like somebody who starts anew, and a success leaves the same
clusters. -/
theorem IsUnderWay.resume (underWay : IsUnderWay directory links start pair)
    (client? : Option (EndpointsClient World)) (world : World) :
    let last := run (Pass.reconcile client?) pair.host pair.owner world
    let single := run (Pass.reconcile client?) start.host start.owner world
    last.1 = single.1 ∧ (last.1 = .ok () → last = single) := by
  intro last single
  obtain ⟨early, addresses, part, recorded, rfl⟩ := underWay
  have lastIs : last = _ := run_reconcile_partly hosts owns client? early addresses world
  have singleIs : single = _ := run_reconcile_eq client? hosts owns world
  cases obstacle : obstacle? directory.identity links with
  | some error =>
      simp only [obstacle] at lastIs singleIs
      rw [lastIs, singleIs]
      exact ⟨rfl, by rintro ⟨⟩⟩
  | none =>
      simp only [obstacle] at lastIs singleIs
      have sameResult : last.1 = single.1 := by rw [lastIs, singleIs]
      refine ⟨sameResult, ?_⟩
      intro succeeds
      have found : (lookUps client? directory links world).result = .ok () := by
        rwa [lastIs] at succeeds
      have sameEndpoints : (fun kept => adjust directory.identity links
          (lookUps client? directory links world) (addAll early kept)) =
            adjust directory.identity links (lookUps client? directory links world) := by
        funext kept
        simp only [adjust, found, settle, addAll_addAll_of_prefix part]
      have sameRecord : links.recordAll .toApiServer
          (addresses ++ (lookUps client? directory links world).addresses) =
            links.recordAll .toApiServer (lookUps client? directory links world).addresses := by
        have every := Search.length_addresses_of_ok found
        by_cases nothing : wanted directory.identity links = []
        · rw [recorded nothing, List.nil_append]
        · apply LinkDirectory.recordAll_append_of_ne_nil
          intro none
          rw [lookUps] at none
          rw [none, List.length_nil, List.length_map] at every
          exact nothing (List.eq_nil_of_length_eq_zero every.symm)
      rw [lastIs, singleIs, sameEndpoints, sameRecord]

end Directories

/-- Attempts on clusters of which one has no directory leave both of them alone. -/
theorem afterAll_of_idle {start : ClusterPair}
    (idle : ∀ attempt : Attempt World, (start.reconcile attempt).2 = start)
    (attempts : List (Attempt World)) : start.afterAll attempts = start := by
  induction attempts with
  | nil => rfl
  | cons attempt rest ih =>
      change (start.reconcile attempt).2.afterAll rest = start
      rw [idle attempt, ih]

/-- After any row of attempts that failed, each with its own client, a pass ends as it would have
ended without them. If it succeeds, nothing is left of them: both clusters are as a single pass
leaves them, whatever endpoints the host had at first. -/
theorem reconcile_after_failures (attempts : List (Attempt World)) (start : ClusterPair)
    (failed : start.AllFail attempts) (client? : Option (EndpointsClient World)) (world : World) :
    let before := start.afterAll attempts
    let last := run (reconcile client?) before.host before.owner world
    let single := run (reconcile client?) start.host start.owner world
    last.1 = single.1 ∧ (last.1 = .ok () → last = single) := by
  intro before last single
  cases hosts : EndpointDirectory.ofCluster start.host with
  | error error =>
      have unmoved : before = start := by
        apply afterAll_of_idle
        intro attempt
        simp [ClusterPair.reconcile, run, hosts]
      simp only [last, single, unmoved, implies_true, and_self]
  | ok directory =>
    cases owns : LinkDirectory.ofCluster start.owner with
    | error error =>
        have unmoved : before = start := by
          apply afterAll_of_idle
          intro attempt
          simp [ClusterPair.reconcile, run, hosts, owns]
        simp only [last, single, unmoved, implies_true, and_self]
    | ok links =>
        have underWay : IsUnderWay directory links start before :=
          isUnderWay_afterAll hosts owns attempts (isUnderWay_start hosts owns) failed
        exact underWay.resume hosts owns client? world

open Landscape in
/-- The first attempt for the violet cluster has no client and the second one finds no endpoint for
the second link. The third one ends like a single pass, with one endpoint for each link. -/
theorem violet_connected_at_last :
    let start : ClusterPair := ⟨management, violet⟩
    let attempts : List (Attempt Unit) := [⟨none, ()⟩, ⟨some hesitant, ()⟩]
    let before := start.afterAll attempts
    let last := run (reconcile (some client)) before.host before.owner ()
    start.AllFail attempts ∧ before ≠ start ∧ last.1 = .ok () ∧
      last = run (reconcile (some client)) management violet () ∧
      last.2.1.hostedEndpoints.map (·.name) =
        [PrivateEndpoint.nameFor "api", PrivateEndpoint.nameFor "web"] := by
  intro start attempts before last
  have failed : start.AllFail attempts := by
    refine ⟨⟨.invalidConfig ("cannot resolve private endpoint " ++ PrivateEndpoint.nameFor "api" ++
        " without a provider client"), ?_⟩,
      ⟨.endpointNotFound (PrivateEndpoint.nameFor "web"), ?_⟩, trivial⟩
    · decide +kernel
    · decide +kernel
  have succeeds : last.1 = .ok () := by decide +kernel
  have same := (reconcile_after_failures attempts start failed (some client) ()).2 succeeds
  exact ⟨failed, by decide +kernel, succeeds, same, by decide +kernel⟩

end Pass
end ClusterLinks
