import ClusterLinks.Proofs.Cluster.Core
import ClusterLinks.Proofs.Pass.Repetition

/-!
# Passes with fixed answers

If every look-up has one answer, a pass is a function of its two clusters, and its world does not
matter. It can then be taken up again with either cluster as it was before or as the pass has left
it, whether the pass succeeded or not: it ends in the same way and with the same two clusters.
-/

namespace ClusterLinks

open Endpoints

variable {World Inner : Type}

/-- The answers to all look-ups, by resource group and by name. -/
abbrev Findings : Type :=
  String → String → Except Error (Option EndpointResource)

/-- A client that has the answers and no world. -/
def Findings.client (findings : Findings) : EndpointsClient Unit where
  lookup group name := .ofExcept (findings group name)

namespace EndpointsClient

/-- These are the answers of the client, whatever goes on in the world. -/
def Gives (client : EndpointsClient World) (findings : Findings) : Prop :=
  ∀ group name world, (client.lookup group name world).1 = findings group name

/-- Looking something up leaves a part of the world as it is. -/
def Spares (client : EndpointsClient World) (view : World → Inner) : Prop :=
  ∀ group name world, view (client.lookup group name world).2 = view world

variable {client : EndpointsClient World} {findings : Findings} {view : World → Inner}

theorem resolve_of_gives (gives : client.Gives findings) (directory : EndpointDirectory)
    (name : String) (world : World) (world' : Unit) :
    (directory.resolve (some client) name world).1 =
      (directory.resolve (some findings.client) name world').1 := by
  have same := gives directory.identity.resourceGroup name world
  simp only [EndpointDirectory.resolve, Action.bind_run, Findings.client, Action.ofExcept_run]
  cases answer : client.lookup directory.identity.resourceGroup name world with
  | mk found after =>
    simp only [answer] at same
    subst same
    rcases findings directory.identity.resourceGroup name with error | resource?
    · rfl
    · cases resource? <;> rfl

theorem resolve_spares (spares : client.Spares view) (directory : EndpointDirectory)
    (name : String) (world : World) :
    view (directory.resolve (some client) name world).2 = view world := by
  have same := spares directory.identity.resourceGroup name world
  simp only [EndpointDirectory.resolve, Action.bind_run]
  cases answer : client.lookup directory.identity.resourceGroup name world with
  | mk found after =>
    rw [answer] at same
    rcases found with error | resource?
    · exact same
    · cases resource? <;> exact same

end EndpointsClient

namespace Pass

variable {client : EndpointsClient World} {findings : Findings} {view : World → Inner}

/-! ## The world does not matter -/

theorem Search.run_spares {resolve : String → Action World IpAddress}
    (spares : ∀ name world, view (resolve name world).2 = view world) (names : List String)
    (world : World) : view (run resolve names world).world = view world := by
  induction names generalizing world with
  | nil => rfl
  | cons name rest ih =>
      have same := spares name world
      rw [run]
      split
      · next answer =>
          rw [answer] at same
          exact (ih _).trans same
      · next answer => rwa [answer] at same

theorem run_reconcile_of_gives (gives : client.Gives findings) (host owner : Cluster)
    (world : World) :
    let here := run (reconcile (some client)) host owner world
    let there := run (reconcile (some findings.client)) host owner ()
    here.1 = there.1 ∧ here.2.1 = there.2.1 ∧ here.2.2.1 = there.2.2.1 := by
  intro here there
  cases hosts : EndpointDirectory.ofCluster host with
  | error error => simp [here, there, run, hosts]
  | ok endpoints =>
    cases owns : LinkDirectory.ofCluster owner with
    | error error => simp [here, there, run, hosts, owns]
    | ok links =>
        simp only [here, there, run_of_directories hosts owns, reconcile_run]
        cases obstacle? endpoints.identity links with
        | some error => simp
        | none =>
            have same := Search.run_congr (EndpointsClient.resolve_of_gives gives endpoints)
              ((wanted endpoints.identity links).map (·.name)) world ()
            simp only [same, Search.attempts, and_self]

theorem run_reconcile_spares (spares : client.Spares view) (host owner : Cluster)
    (world : World) :
    view (run (reconcile (some client)) host owner world).2.2.2 = view world := by
  cases hosts : EndpointDirectory.ofCluster host with
  | error error => simp [run, hosts]
  | ok endpoints =>
    cases owns : LinkDirectory.ofCluster owner with
    | error error => simp [run, hosts, owns]
    | ok links =>
        simp only [run_of_directories hosts owns, reconcile_run]
        cases obstacle? endpoints.identity links with
        | some error => rfl
        | none => exact Search.run_spares (EndpointsClient.resolve_spares spares endpoints) _ _

/-! ## The pass for the API server -/

theorem core_host_of_run (pass : Pass World Unit) (host owner : Cluster) (world : World) :
    (run pass host owner world).2.1.core = host.core := by
  unfold run
  split <;> rfl

theorem core_owner_of_run (pass : Pass World Unit) (host owner : Cluster) (world : World) :
    (run pass host owner world).2.2.1.core = owner.core := by
  unfold run
  split <;> rfl

variable {host owner owner' : Cluster}
variable {endpoints : EndpointDirectory} {links : LinkDirectory}

/-- What a pass makes of the endpoints after a row of look-ups: all that it should if no look-up
failed, and the endpoints whose turn had come if one did. -/
def adjust (identity : ClusterIdentity) (links : LinkDirectory) (search : Search World)
    (kept : List PrivateEndpoint) : List PrivateEndpoint :=
  match search.result with
  | .ok _ => settle identity links kept
  | .error _ => addAll ((wanted identity links).take search.attempts) kept

theorem run_reconcile_eq (client? : Option (EndpointsClient World))
    (hosts : EndpointDirectory.ofCluster host = .ok endpoints)
    (owns : LinkDirectory.ofCluster owner = .ok links) (world : World) :
    run (reconcile client?) host owner world =
      match obstacle? endpoints.identity links with
      | some error => (.error error, host, owner, world)
      | none =>
          let search := lookUps client? endpoints links world
          (search.result,
            host.withSubnets (endpoints.update (adjust endpoints.identity links search)).subnets,
            owner.withAnnotations
              (LinkDirectory.recordAll .toApiServer search.addresses links).annotations,
            search.world) := by
  rw [run_of_directories hosts owns, reconcile_run]
  cases obstacle? endpoints.identity links with
  | some error =>
      simp only [EndpointDirectory.withSubnets_subnets hosts,
        LinkDirectory.withAnnotations_annotations owns]
  | none => rfl

/-- Adjusting again after the same look-ups changes nothing. -/
theorem adjust_adjust {identity : ClusterIdentity} {kept : List PrivateEndpoint}
    (unique : UniqueNames kept) (spares : SparesWanted identity links kept)
    (search : Search World) :
    adjust identity links search (adjust identity links search kept) =
      adjust identity links search kept := by
  unfold adjust
  cases search.result with
  | ok done => exact settle_settle unique spares
  | error error =>
      apply addAll_of_has
      intro endpoint member
      rw [has_addAll, has_iff.mpr ⟨endpoint, member, rfl⟩, Bool.or_true]

/-- With fixed answers a pass depends on the core of the owner, and on the endpoints that are there
only through what it adds and removes. -/
theorem run_reconcile_of_change (findings : Findings)
    (hosts : EndpointDirectory.ofCluster host = .ok endpoints)
    (owns : LinkDirectory.ofCluster owner = .ok links) (sameCore : owner'.core = owner.core)
    (change : List PrivateEndpoint → List PrivateEndpoint) :
    run (reconcile (some findings.client)) (host.withSubnets (endpoints.update change).subnets)
        owner' () =
      match obstacle? endpoints.identity links with
      | some error =>
          (.error error, host.withSubnets (endpoints.update change).subnets, owner', ())
      | none =>
          let search := lookUps (some findings.client) endpoints links ()
          (search.result,
            host.withSubnets (endpoints.update fun kept =>
              adjust endpoints.identity links search (change kept)).subnets,
            owner'.withAnnotations (LinkDirectory.recordAll .toApiServer search.addresses
              { links with annotations := owner'.metadata.annotations }).annotations,
            ()) := by
  have owns' : LinkDirectory.ofCluster owner' =
      .ok { links with annotations := owner'.metadata.annotations } := by
    rw [LinkDirectory.ofCluster_of_core_eq sameCore, owns]
    rfl
  exact run_reconcile_eq _ (EndpointDirectory.ofCluster_update hosts change) owns' ()

end Pass

/-- What the host has under the name of a link that allows it connects to that link. -/
def Cluster.HasTrueNames (host owner : Cluster) : Prop :=
  ∀ link ∈ PrivateLink.allowing owner.privateLinks host.spec.subscriptionId,
    ∀ endpoint ∈ host.hostedEndpoints, endpoint.name = PrivateEndpoint.nameFor link.name →
      endpoint.ConnectsTo (owner.linkId link.name)

instance (host owner : Cluster) : Decidable (host.HasTrueNames owner) :=
  inferInstanceAs (Decidable (∀ link ∈ PrivateLink.allowing _ _, _))

namespace Pass

variable {findings : Findings} {host owner owner' : Cluster}
variable {endpoints : EndpointDirectory} {links : LinkDirectory}

/-- Where names are true, no stale endpoint bears a wanted one. -/
theorem sparesWanted_of_hasTrueNames (hosts : EndpointDirectory.ofCluster host = .ok endpoints)
    (owns : LinkDirectory.ofCluster owner = .ok links) (trueNames : host.HasTrueNames owner) :
    SparesWanted endpoints.identity links host.hostedEndpoints := by
  intro endpoint present isWanted
  rcases has_iff.mp isWanted with ⟨wantedOne, member, sameName⟩
  rcases mem_wanted.mp member with ⟨link, allowed, rfl⟩
  apply not_isStale_of_connectsTo (List.mem_of_mem_filter allowed)
  rw [LinkDirectory.idOf_of_ofCluster owns]
  rw [allowing_of_ofCluster hosts owns] at allowed
  exact trueNames link allowed endpoint present sameName.symm

/-- A pass that finds the host as it was or as another one has left it, and an owner with the same
core, ends like that other one, and leaves the host like it. -/
theorem run_reconcile_resume {host' : Cluster} (unique : UniqueNames host.hostedEndpoints)
    (trueNames : host.HasTrueNames owner) (sameCore : owner'.core = owner.core) :
    let pass := reconcile (some findings.client)
    let first := run pass host owner ()
    host' = host ∨ host' = first.2.1 →
      let second := run pass host' owner' ()
      second.1 = first.1 ∧ second.2.1 = first.2.1 ∧
        second.2.2.1 = (run pass host owner' ()).2.2.1 := by
  intro pass first found second
  cases hosts : EndpointDirectory.ofCluster host with
  | error error =>
      have unchanged : first.2.1 = host := by simp [first, run, hosts]
      rw [unchanged, or_self] at found
      subst found
      simp [second, first, run, hosts]
  | ok endpoints =>
    cases owns : LinkDirectory.ofCluster owner with
    | error error =>
        have unchanged : first.2.1 = host := by simp [first, run, hosts, owns]
        have owns' : LinkDirectory.ofCluster owner' = .error error := by
          rw [LinkDirectory.ofCluster_of_core_eq sameCore, owns]
          rfl
        rw [unchanged, or_self] at found
        subst found
        simp [second, first, run, hosts, owns, owns']
    | ok links =>
        -- The host as it was is the host changed by nothing.
        have asItWas : host.withSubnets (endpoints.update id).subnets = host :=
          EndpointDirectory.withSubnets_subnets hosts
        have firstIs := run_reconcile_of_change findings hosts owns rfl id
        have ownerIs := run_reconcile_of_change findings hosts owns sameCore id
        rw [asItWas] at firstIs ownerIs
        have spares := sparesWanted_of_hasTrueNames hosts owns trueNames
        rw [EndpointDirectory.hostedEndpoints_of_ofCluster hosts] at unique spares
        cases free : obstacle? endpoints.identity links with
        | some error =>
            simp only [free] at firstIs ownerIs
            have unchanged : first.2.1 = host := by rw [show first = _ from firstIs]
            rw [unchanged, or_self] at found
            subst found
            rw [show second = _ from ownerIs, show first = _ from firstIs]
            exact ⟨rfl, rfl, by rw [ownerIs]⟩
        | none =>
            have settled (search : Search Unit) :
                endpoints.update (fun kept => adjust endpoints.identity links search
                    (adjust endpoints.identity links search kept)) =
                  endpoints.update (adjust endpoints.identity links search) :=
              congrArg (fun kept => endpoints.update fun _ => kept)
                (adjust_adjust unique spares search)
            simp only [free] at firstIs ownerIs
            have left : first.2.1 = host.withSubnets (endpoints.update (adjust endpoints.identity
                links (lookUps (some findings.client) endpoints links ()))).subnets := by
              rw [show first = _ from firstIs]
              rfl
            have secondIs : second = (first.1, first.2.1, (run pass host owner' ()).2.2.1, ()) := by
              rcases found with rfl | rfl
              · simp only [second, pass, first, firstIs, ownerIs, id]
              · have again := run_reconcile_of_change findings hosts owns sameCore
                  (adjust endpoints.identity links
                    (lookUps (some findings.client) endpoints links ()))
                simp only [free, settled] at again
                rw [show second = run pass first.2.1 owner' () from rfl, left, again, ownerIs,
                  show first = _ from firstIs]
            exact ⟨by rw [secondIs], by rw [secondIs], by rw [secondIs]⟩

/-- A pass writes nothing on an owner on which it has written already. -/
theorem run_reconcile_owner_again (host owner : Cluster) :
    let pass := reconcile (some findings.client)
    let first := run pass host owner ()
    (run pass host first.2.2.1 ()).2.2.1 = first.2.2.1 := by
  intro pass first
  cases hosts : EndpointDirectory.ofCluster host with
  | error error => simp [first, pass, run, hosts]
  | ok endpoints =>
    cases owns : LinkDirectory.ofCluster owner with
    | error error => simp [first, pass, run, hosts, owns]
    | ok links =>
        have firstIs := run_reconcile_eq (some findings.client) hosts owns ()
        cases free : obstacle? endpoints.identity links with
        | some error =>
            simp only [free] at firstIs
            have unchanged : first.2.2.1 = owner := by rw [show first = _ from firstIs]
            rw [unchanged]
            exact unchanged
        | none =>
            simp only [free] at firstIs
            have left : first.2.2.1 = owner.withAnnotations (links.recordAll .toApiServer
                (lookUps (some findings.client) endpoints links ()).addresses).annotations := by
              rw [show first = _ from firstIs]
            have ownsAgain : LinkDirectory.ofCluster first.2.2.1 = .ok (links.recordAll .toApiServer
                (lookUps (some findings.client) endpoints links ()).addresses) := by
              rw [left]
              apply LinkDirectory.ofCluster_withAnnotations owns <;> simp
            have sameSearch (addresses : List IpAddress) :
                lookUps (some findings.client) endpoints (links.recordAll .toApiServer addresses) ()
                  = lookUps (some findings.client) endpoints links () := by
              simp only [lookUps, wanted_recordAll]
            rw [run_reconcile_eq _ hosts ownsAgain, obstacle?_recordAll, free]
            simp only [sameSearch, LinkDirectory.recordAll_recordAll]
            exact LinkDirectory.withAnnotations_annotations ownsAgain

/-! ## The pass for the ingress -/

section Ingress

variable {World : Type} (client? : Option (EndpointsClient World)) (management : ClusterIdentity)
  (link : PrivateLink) {cluster : Cluster}

/-- A cluster gets its endpoint to the ingress of the management cluster. -/
def ingress : Pass World Unit := do
  let host ← Action.inspect (·.host.identity)
  reconcileIngress client? (PrivateEndpoint.forIngress host management link)

/-- The endpoint is added whether or not there is an address to record. -/
theorem runAlone_ingress_eq (hosts : EndpointDirectory.ofCluster cluster = .ok endpoints)
    (owns : LinkDirectory.ofCluster cluster = .ok links) (world : World) :
    runAlone (ingress client? management link) cluster world =
      let endpoint := PrivateEndpoint.forIngress endpoints.identity management link
      let answer := endpoints.resolve client? endpoint.name world
      (answer.1.map fun _ => (),
        (cluster.withSubnets (endpoints.update (Endpoints.add endpoint)).subnets).withAnnotations
          (LinkDirectory.recordAll .toIngress answer.1.toOption.toList links).annotations,
        answer.2) := by
  simp only [runAlone, hosts, owns, ingress, Action.bind_run, Action.inspect_run, reconcileIngress,
    connect_run]
  cases endpoints.resolve client?
      (PrivateEndpoint.forIngress endpoints.identity management link).name world with
  | mk result after => cases result <;> rfl

variable {client : EndpointsClient World} {Inner : Type} {view : World → Inner}

/-- A cluster without directories makes every pass fail before it starts. -/
theorem runAlone_cases (cluster : Cluster) :
    (∃ error, ∀ {World : Type} (pass : Pass World Unit) (world : World),
        runAlone pass cluster world = (.error error, cluster, world)) ∨
      ∃ endpoints links, EndpointDirectory.ofCluster cluster = .ok endpoints ∧
        LinkDirectory.ofCluster cluster = .ok links := by
  cases hosts : EndpointDirectory.ofCluster cluster with
  | error error => exact .inl ⟨error, fun pass world => by simp [runAlone, hosts]⟩
  | ok endpoints =>
    cases owns : LinkDirectory.ofCluster cluster with
    | error error => exact .inl ⟨error, fun pass world => by simp [runAlone, hosts, owns]⟩
    | ok links => exact .inr ⟨endpoints, links, rfl, rfl⟩

theorem core_of_runAlone (pass : Pass World Unit) (cluster : Cluster) (world : World) :
    (runAlone pass cluster world).2.1.core = cluster.core := by
  unfold runAlone
  split <;> rfl

theorem runAlone_ingress_of_gives (gives : client.Gives findings) (cluster : Cluster)
    (world : World) :
    let here := runAlone (ingress (some client) management link) cluster world
    let there := runAlone (ingress (some findings.client) management link) cluster ()
    here.1 = there.1 ∧ here.2.1 = there.2.1 := by
  intro here there
  rcases runAlone_cases cluster with ⟨error, fails⟩ | ⟨endpoints, links, hosts, owns⟩
  · simp [here, there, fails]
  · have same := EndpointsClient.resolve_of_gives gives endpoints
      (PrivateEndpoint.forIngress endpoints.identity management link).name world ()
    simp only [here, there, runAlone_ingress_eq _ _ _ hosts owns, same, and_self]

theorem runAlone_ingress_spares (spares : client.Spares view) (cluster : Cluster)
    (world : World) :
    view (runAlone (ingress (some client) management link) cluster world).2.2 = view world := by
  rcases runAlone_cases cluster with ⟨error, fails⟩ | ⟨endpoints, links, hosts, owns⟩
  · rw [fails]
  · rw [runAlone_ingress_eq _ _ _ hosts owns]
    exact EndpointsClient.resolve_spares spares _ _ _

/-- The pass for the ingress can be made again: the endpoint and the address are there already. -/
theorem runAlone_ingress_again (cluster : Cluster) :
    let pass := ingress (some findings.client) management link
    let first := runAlone pass cluster ()
    runAlone pass first.2.1 () = first := by
  intro pass first
  rcases runAlone_cases cluster with ⟨error, fails⟩ | ⟨endpoints, links, hosts, owns⟩
  · simp [first, fails]
  · obtain ⟨endpoint, isEndpoint⟩ :
        ∃ endpoint, PrivateEndpoint.forIngress endpoints.identity management link = endpoint :=
      ⟨_, rfl⟩
    have firstIs : first = _ :=
      runAlone_ingress_eq (some findings.client) management link hosts owns ()
    simp only [isEndpoint] at firstIs
    have hostsAgain : EndpointDirectory.ofCluster first.2.1 =
        .ok (endpoints.update (Endpoints.add endpoint)) := by
      rw [firstIs]
      exact EndpointDirectory.ofCluster_update hosts _
    have ownsAgain : LinkDirectory.ofCluster first.2.1 = .ok (links.recordAll .toIngress
        (endpoints.resolve (some findings.client) endpoint.name ()).1.toOption.toList) := by
      rw [firstIs]
      apply LinkDirectory.ofCluster_withAnnotations
        ((LinkDirectory.ofCluster_withSubnets _ _).trans owns) <;> simp
    have complete : (endpoints.update (Endpoints.add endpoint)).update (Endpoints.add endpoint) =
        endpoints.update (Endpoints.add endpoint) :=
      congrArg endpoints.update (funext fun _ => add_add)
    have secondIs := runAlone_ingress_eq (some findings.client) management link hostsAgain
      ownsAgain ()
    simp only [EndpointDirectory.identity_update, EndpointDirectory.resolve_update, isEndpoint,
      complete, LinkDirectory.recordAll_recordAll, EndpointDirectory.withSubnets_subnets hostsAgain,
      LinkDirectory.withAnnotations_annotations ownsAgain] at secondIs
    rw [show runAlone pass first.2.1 () = _ from secondIs]
    exact Prod.ext (by rw [firstIs]) (Prod.ext rfl (by rw [firstIs]))

theorem ofCluster_runAlone_ingress (owns : LinkDirectory.ofCluster cluster = .ok links)
    (world : World) :
    ∃ found, LinkDirectory.ofCluster
      (runAlone (ingress client? management link) cluster world).2.1 =
        .ok (links.recordAll .toIngress found) := by
  rcases runAlone_cases cluster with ⟨error, fails⟩ | ⟨endpoints, links', hosts, owns'⟩
  · exact ⟨[], by rw [fails]; exact owns⟩
  · rw [owns, Except.ok.injEq] at owns'
    subst owns'
    rw [runAlone_ingress_eq _ _ _ hosts owns]
    refine ⟨_, LinkDirectory.ofCluster_withAnnotations
      ((LinkDirectory.ofCluster_withSubnets _ _).trans owns) ?_ ?_ ?_⟩ <;> simp

/-- The address for the ingress can be recorded without touching the other record. -/
theorem run_reconcile_owner_after_ingress {findings' : Findings} (host owner : Cluster) :
    let pass := reconcile (some findings.client)
    let after := (runAlone (ingress (some findings'.client) management link) owner ()).2.1
    (run pass host owner ()).2.2.1 = owner → (run pass host after ()).2.2.1 = after := by
  intro pass after kept
  have sameCore : after.core = owner.core := core_of_runAlone _ _ _
  cases hosts : EndpointDirectory.ofCluster host with
  | error error => simp [run, hosts]
  | ok endpoints =>
    cases owns : LinkDirectory.ofCluster owner with
    | error error =>
        have ownsAfter : LinkDirectory.ofCluster after = .error error := by
          rw [LinkDirectory.ofCluster_of_core_eq sameCore, owns]
          rfl
        simp [run, hosts, ownsAfter]
    | ok links =>
        rcases ofCluster_runAlone_ingress (some findings'.client) management link owns () with
          ⟨found, ownsAfter⟩
        rw [show run pass host owner () = _ from run_reconcile_eq _ hosts owns ()] at kept
        rw [show run pass host after () = _ from run_reconcile_eq _ hosts ownsAfter (),
          obstacle?_recordAll]
        cases free : obstacle? endpoints.identity links with
        | some error => rfl
        | none =>
            simp only [free] at kept
            have known := LinkDirectory.recordAll_eq_self owns kept
            have sameSearch : lookUps (some findings.client) endpoints
                (links.recordAll .toIngress found) () =
                  lookUps (some findings.client) endpoints links () := by
              simp only [lookUps, wanted_recordAll]
            simp only [sameSearch, LinkDirectory.recordAll_recordAll_of_ne known
              (show Direction.toIngress ≠ .toApiServer by decide)]
            exact LinkDirectory.withAnnotations_annotations ownsAfter

end Ingress

end Pass

end ClusterLinks
