import ClusterLinks.Pass
import ClusterLinks.Proofs.Endpoint.Hosting
import ClusterLinks.Proofs.Endpoint.Lists
import ClusterLinks.Proofs.Link.Records

/-!
# What a pass does

A pass asks for addresses one after the other until a look-up fails. Everything else about it
follows from that row of look-ups: which endpoints were added, which address is on record, and
whether unused endpoints were removed. The equations here say so for every state and for every
client, failing or not.
-/

namespace ClusterLinks

variable {World : Type}

@[simp] theorem EndpointDirectory.resolve_update (directory : EndpointDirectory)
    (change : List PrivateEndpoint → List PrivateEndpoint)
    (client? : Option (EndpointsClient World)) :
    (directory.update change).resolve client? = directory.resolve client? := rfl

/-- Every look-up has one answer, whatever went on in the world before. -/
def EndpointsClient.IsSteady (client : EndpointsClient World) : Prop :=
  ∀ group name world world',
    (client.lookup group name world).1 = (client.lookup group name world').1

theorem EndpointDirectory.resolve_steady {client? : Option (EndpointsClient World)}
    (steady : ∀ client ∈ client?, client.IsSteady)
    (directory : EndpointDirectory) (name : String) (world world' : World) :
    (directory.resolve client? name world).1 = (directory.resolve client? name world').1 := by
  cases client? with
  | none => rfl
  | some client =>
      have same := steady client rfl directory.identity.resourceGroup name world world'
      simp only [resolve, Action.bind_run]
      cases answer : client.lookup directory.identity.resourceGroup name world with
      | mk found after =>
        cases answer' : client.lookup directory.identity.resourceGroup name world' with
        | mk found' after' =>
          simp only [answer, answer'] at same
          subst same
          rcases found with error | resource?
          · rfl
          · cases resource? <;> rfl

namespace Pass

/-! ## Rows of look-ups -/

/-- What a row of look-ups comes to: how it ended and the addresses that were found before. -/
structure Search (World : Type) where
  result : Except Error Unit
  addresses : List IpAddress
  world : World

namespace Search

/-- Looks names up, one after the other, up to the first failure. -/
def run (resolve : String → Action World IpAddress) : List String → World → Search World
  | [], world => ⟨.ok (), [], world⟩
  | name :: rest, world =>
      match resolve name world with
      | (.ok address, after) =>
          let later := run resolve rest after
          { later with addresses := address :: later.addresses }
      | (.error error, after) => ⟨.error error, [], after⟩

/-- How many names were looked up. -/
def attempts (search : Search World) : Nat :=
  match search.result with
  | .ok _ => search.addresses.length
  | .error _ => search.addresses.length + 1

theorem attempts_of_error {search : Search World} {error : Error}
    (stops : search.result = .error error) : search.attempts = search.addresses.length + 1 := by
  simp only [attempts, stops]

/-- A row of look-ups that does not fail finds one address for each name. -/
theorem length_addresses_of_ok {resolve : String → Action World IpAddress} {names : List String}
    {world : World} (succeeds : (run resolve names world).result = .ok ()) :
    (run resolve names world).addresses.length = names.length := by
  induction names generalizing world with
  | nil => rfl
  | cons name rest ih =>
      rw [run] at succeeds ⊢
      split at succeeds
      · simpa using ih succeeds
      · simp at succeeds

/-- A row of look-ups that fails has come to a name without an address. -/
theorem length_addresses_of_error {resolve : String → Action World IpAddress}
    {names : List String} {world : World} {error : Error}
    (fails : (run resolve names world).result = .error error) :
    (run resolve names world).addresses.length < names.length := by
  induction names generalizing world with
  | nil => simp [run] at fails
  | cons name rest ih =>
      rw [run] at fails ⊢
      split at fails
      · simpa using ih fails
      · simp

/-- The last address was found for the last name. -/
theorem getLast?_addresses {resolve : String → Action World IpAddress} {names : List String}
    {world : World} {last : String} (succeeds : (run resolve names world).result = .ok ())
    (isLast : names.getLast? = some last) :
    ∃ address asked, (run resolve names world).addresses.getLast? = some address ∧
      (resolve last asked).1 = .ok address := by
  induction names generalizing world with
  | nil => simp at isLast
  | cons name rest ih =>
      rw [run] at succeeds ⊢
      split at succeeds
      · next address after answer =>
          simp only at succeeds ⊢
          cases further : rest.getLast? with
          | some later =>
              rw [List.getLast?_cons, further, Option.getD_some, Option.some.injEq] at isLast
              subst isLast
              rcases ih succeeds further with ⟨address', asked, found, answered⟩
              exact ⟨address', asked, by simp [List.getLast?_cons, found], answered⟩
          | none =>
              rw [List.getLast?_eq_none_iff] at further
              subst further
              rw [List.getLast?_singleton, Option.some.injEq] at isLast
              subst isLast
              exact ⟨address, world, by simp [run], by rw [answer]⟩
      · simp at succeeds

/-- Rows of look-ups with the same answers come to the same, whatever goes on in their worlds. -/
theorem run_congr {Other : Type} {resolve : String → Action World IpAddress}
    {resolve' : String → Action Other IpAddress}
    (agree : ∀ name world world', (resolve name world).1 = (resolve' name world').1)
    (names : List String) (world : World) (world' : Other) :
    (run resolve names world).result = (run resolve' names world').result ∧
      (run resolve names world).addresses = (run resolve' names world').addresses := by
  induction names generalizing world world' with
  | nil => exact ⟨rfl, rfl⟩
  | cons name rest ih =>
      have same := agree name world world'
      rw [run, run]
      cases answer : resolve name world with
      | mk found after =>
        cases answer' : resolve' name world' with
        | mk found' after' =>
          simp only [answer, answer'] at same
          subst same
          cases found with
          | error error => exact ⟨rfl, rfl⟩
          | ok address =>
              rcases ih after after' with ⟨results, addresses⟩
              exact ⟨results, congrArg (address :: ·) addresses⟩

end Search

/-- An address that the client finds, in some world, for an endpoint of a resource group. -/
def IsAddressOf (client? : Option (EndpointsClient World)) (resourceGroup name : String)
    (address : IpAddress) : Prop :=
  ∃ client ∈ client?, ∃ resource asked,
    (client.lookup resourceGroup name asked).1 = .ok (some resource) ∧
      resource.firstAddress name = .ok address

theorem isAddressOf_of_resolve {client? : Option (EndpointsClient World)}
    {directory : EndpointDirectory} {name : String} {world : World} {address : IpAddress}
    (found : (directory.resolve client? name world).1 = .ok address) :
    IsAddressOf client? directory.identity.resourceGroup name address := by
  cases client? with
  | none => simp [EndpointDirectory.resolve] at found
  | some client =>
      simp only [EndpointDirectory.resolve, Action.bind_run] at found
      split at found
      · next resource? after answer =>
          cases resource? with
          | none => simp at found
          | some resource => exact ⟨client, rfl, resource, world, by rw [answer], found⟩
      · simp at found

/-! ## Equations -/

variable (client? : Option (EndpointsClient World)) (direction : Direction)

theorem connect_run (endpoint : PrivateEndpoint) (state : PassState World) :
    connect client? direction endpoint state =
      match state.host.resolve client? endpoint.name state.world with
      | (.ok address, world) =>
          (.ok (), ⟨state.host.update (Endpoints.add endpoint),
            state.owner.record direction address, world⟩)
      | (.error error, world) =>
          (.error error, ⟨state.host.update (Endpoints.add endpoint), state.owner, world⟩) := by
  simp only [connect, updateHost, record, resolve, Action.bind_run, Action.modify_run,
    EndpointDirectory.resolve_update]
  cases state.host.resolve client? endpoint.name state.world with
  | mk result world => cases result <;> rfl

/-- Endpoints are added up to the one whose look-up fails, and only addresses that were found are
recorded. -/
theorem connectAll_run (endpoints : List PrivateEndpoint) (state : PassState World) :
    connectAll client? direction endpoints state =
      let search := Search.run (state.host.resolve client?) (endpoints.map (·.name)) state.world
      (search.result,
        { host := state.host.update (Endpoints.addAll (endpoints.take search.attempts))
          owner := LinkDirectory.recordAll direction search.addresses state.owner
          world := search.world }) := by
  induction endpoints generalizing state with
  | nil => rfl
  | cons endpoint rest ih =>
      simp only [connectAll, Action.bind_run, connect_run, List.map_cons, Search.run]
      cases state.host.resolve client? endpoint.name state.world with
      | mk result world =>
        cases result with
        | error error => rfl
        | ok address =>
            simp only [ih, EndpointDirectory.resolve_update]
            cases ended :
                (Search.run (state.host.resolve client?) (rest.map (·.name)) world).result <;>
              simp only [Search.attempts, ended] <;> rfl

theorem reconcile_run (state : PassState World) :
    reconcile client? state =
      match obstacle? state.host.identity state.owner with
      | some error => (.error error, state)
      | none =>
          let endpoints := wanted state.host.identity state.owner
          let search := Search.run (state.host.resolve client?) (endpoints.map (·.name)) state.world
          (search.result,
            { host := state.host.update fun kept =>
                match search.result with
                | .ok _ => removeUnused state.owner (Endpoints.addAll endpoints kept)
                | .error _ => Endpoints.addAll (endpoints.take search.attempts) kept
              owner := LinkDirectory.recordAll .toApiServer search.addresses state.owner
              world := search.world }) := by
  simp only [reconcile, Action.bind_run, Action.inspect_run]
  cases obstacle? state.host.identity state.owner with
  | some error => rfl
  | none =>
      simp only [Action.bind_run, connectAll_run]
      cases ended : (Search.run (state.host.resolve client?)
          ((wanted state.host.identity state.owner).map (·.name)) state.world).result with
      | error error => rfl
      | ok done =>
          have every := Search.length_addresses_of_ok ended
          simp [Search.attempts, ended, every, updateHost]

theorem delete_run (state : PassState World) :
    delete state =
      (.ok (), { state with
        host := state.host.update (removeWanted state.host.identity state.owner) }) := rfl

/-! ## Passes between clusters -/

variable {client?} {host owner : Cluster} {endpoints : EndpointDirectory} {links : LinkDirectory}

theorem run_of_directories (hosts : EndpointDirectory.ofCluster host = .ok endpoints)
    (owns : LinkDirectory.ofCluster owner = .ok links) (pass : Pass World Unit) (world : World) :
    run pass host owner world =
      let after := pass ⟨endpoints, links, world⟩
      (after.1, host.withSubnets after.2.host.subnets,
        owner.withAnnotations after.2.owner.annotations, after.2.world) := by
  simp [run, hosts, owns]

/-- Only clusters that have directories can be reconciled. -/
theorem directories_of_run_ok {pass : Pass World Unit} {world : World}
    (succeeds : (run pass host owner world).1 = .ok ()) :
    ∃ endpoints links, EndpointDirectory.ofCluster host = .ok endpoints ∧
      LinkDirectory.ofCluster owner = .ok links := by
  cases hosts : EndpointDirectory.ofCluster host with
  | error error => simp [run, hosts] at succeeds
  | ok endpoints =>
      cases owns : LinkDirectory.ofCluster owner with
      | error error => simp [run, hosts, owns] at succeeds
      | ok links => exact ⟨endpoints, links, rfl, rfl⟩

/-- The look-ups of a pass that meets no obstacle. -/
def lookUps (client? : Option (EndpointsClient World)) (endpoints : EndpointDirectory)
    (links : LinkDirectory) (world : World) : Search World :=
  Search.run (endpoints.resolve client?) ((wanted endpoints.identity links).map (·.name)) world

theorem run_reconcile_ok_iff (hosts : EndpointDirectory.ofCluster host = .ok endpoints)
    (owns : LinkDirectory.ofCluster owner = .ok links) (world : World) :
    (run (reconcile client?) host owner world).1 = .ok () ↔
      obstacle? endpoints.identity links = none ∧
        (lookUps client? endpoints links world).result = .ok () := by
  rw [run_of_directories hosts owns, reconcile_run]
  cases obstacle? endpoints.identity links <;> simp [lookUps]

/-- What a pass that succeeds makes of the endpoints. -/
def settle (host : ClusterIdentity) (links : LinkDirectory) (endpoints : List PrivateEndpoint) :
    List PrivateEndpoint :=
  removeUnused links (Endpoints.addAll (wanted host links) endpoints)

/-- A pass that succeeds adds what is wanted, removes what is unused and records what was found. -/
theorem run_reconcile_of_ok (hosts : EndpointDirectory.ofCluster host = .ok endpoints)
    (owns : LinkDirectory.ofCluster owner = .ok links) {world : World}
    (succeeds : (run (reconcile client?) host owner world).1 = .ok ()) :
    run (reconcile client?) host owner world =
      (.ok (),
        host.withSubnets (endpoints.update (settle endpoints.identity links)).subnets,
        owner.withAnnotations (LinkDirectory.recordAll .toApiServer
          (lookUps client? endpoints links world).addresses links).annotations,
        (lookUps client? endpoints links world).world) := by
  rcases (run_reconcile_ok_iff hosts owns world).mp succeeds with ⟨free, found⟩
  unfold lookUps at found
  rw [run_of_directories hosts owns, reconcile_run]
  simp only [free, found]
  rfl

/-- Where look-ups are steady, the endpoints that are there do not matter to the owner. -/
theorem run_reconcile_of_other_endpoints (steady : ∀ client ∈ client?, client.IsSteady)
    (hosts : EndpointDirectory.ofCluster host = .ok endpoints)
    (owns : LinkDirectory.ofCluster owner = .ok links)
    (change : List PrivateEndpoint → List PrivateEndpoint) (world world' : World) :
    let here := run (reconcile client?) host owner world
    let there :=
      run (reconcile client?) (host.withSubnets (endpoints.update change).subnets) owner world'
    there.1 = here.1 ∧ there.2.2.1 = here.2.2.1 := by
  have hostsThere := EndpointDirectory.ofCluster_update hosts change
  rw [run_of_directories hosts owns, run_of_directories hostsThere owns, reconcile_run,
    reconcile_run]
  simp only [EndpointDirectory.identity_update, EndpointDirectory.resolve_update]
  cases obstacle? endpoints.identity links with
  | some error => exact ⟨rfl, rfl⟩
  | none =>
      have same := Search.run_congr (EndpointDirectory.resolve_steady steady endpoints)
        ((wanted endpoints.identity links).map (·.name)) world' world
      rcases same with ⟨results, addresses⟩
      simp only [results, addresses, and_self]

end Pass

end ClusterLinks
