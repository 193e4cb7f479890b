import ClusterLinks.Endpoint.Table
import ClusterLinks.Proofs.Pass.Findings

/-!
# Look-ups on record

A client can note down what it is asked and what it finds. A pass does not notice: it ends in the
same way and with the same clusters. The notes tell which addresses it saw, in which order, and
what made it fail.
-/

namespace ClusterLinks

variable {World : Type}

/-- A look-up of an endpoint with what it found. -/
structure LookUp where
  group : String
  name : String
  finding : Finding

namespace LookUp

/-- What was asked for. -/
def subject (lookUp : LookUp) : String × String :=
  (lookUp.group, lookUp.name)

/-- The address that was found, or what stands in the way of one. -/
def address (lookUp : LookUp) : Except Error IpAddress :=
  match lookUp.finding with
  | .error error => .error error
  | .ok none => .error (.endpointNotFound lookUp.name)
  | .ok (some resource) => resource.firstAddress lookUp.name

end LookUp

/-- A client that notes down its look-ups. -/
def EndpointsClient.noting (client : EndpointsClient World) :
    EndpointsClient (World × List LookUp) where
  lookup group name := fun (world, notes) =>
    let (finding, after) := client.lookup group name world
    (finding, after, notes ++ [⟨group, name, finding⟩])

section Resolve

variable (client : EndpointsClient World) (directory : EndpointDirectory) (name : String)
  (world : World)

/-- The look-up by which an endpoint is resolved. -/
def EndpointDirectory.lookUp : LookUp :=
  let group := directory.identity.resourceGroup
  ⟨group, name, (client.lookup group name world).1⟩

/-- An endpoint is resolved by one look-up. -/
theorem EndpointDirectory.resolve_eq :
    directory.resolve (some client) name world =
      ((directory.lookUp client name world).address,
        (client.lookup directory.identity.resourceGroup name world).2) := by
  simp only [resolve, Action.bind_run, lookUp, LookUp.address]
  cases client.lookup directory.identity.resourceGroup name world with
  | mk finding after =>
    rcases finding with error | resource?
    · rfl
    · cases resource? <;> rfl

theorem EndpointDirectory.resolve_noting (notes : List LookUp) :
    directory.resolve (some client.noting) name (world, notes) =
      ((directory.resolve (some client) name world).1,
        (directory.resolve (some client) name world).2,
        notes ++ [directory.lookUp client name world]) := by
  rw [resolve_eq, resolve_eq]
  rfl

end Resolve

namespace Pass

/-! ## Rows of look-ups -/

/-- The addresses that were found, and at the end the error if there was one. -/
def Search.outcomes (search : Search World) : List (Except Error IpAddress) :=
  search.addresses.map .ok ++
    match search.result with
    | .ok _ => []
    | .error error => [.error error]

theorem Search.outcomes_of_ok {search : Search World} (found : search.result = .ok ()) :
    search.outcomes = search.addresses.map .ok := by
  simp only [outcomes, found, List.append_nil]

theorem Search.outcomes_of_error {search : Search World} {error : Error}
    (stops : search.result = .error error) :
    search.outcomes = search.addresses.map .ok ++ [.error error] := by
  simp only [outcomes, stops]

/-- These are the look-ups of a search among the endpoints of a resource group. -/
structure Search.IsMadeBy (search : Search World) (group : String) (names : List String)
    (lookUps : List LookUp) : Prop where
  subjects : lookUps.map (·.subject) = (names.take search.attempts).map (group, ·)
  outcomes : lookUps.map (·.address) = search.outcomes

/-- A name that is found in front of the others is one more attempt. -/
theorem Search.attempts_found (search : Search World) (address : IpAddress) :
    attempts { search with addresses := address :: search.addresses } = search.attempts + 1 := by
  unfold attempts
  cases search.result <;> rfl

/-- A look-up that finds an address in front of the others is made first. -/
theorem Search.IsMadeBy.found {search : Search World} {group name : String} {names : List String}
    {lookUps : List LookUp} (made : search.IsMadeBy group names lookUps) {lookUp : LookUp}
    {address : IpAddress} (asked : lookUp.subject = (group, name))
    (found : lookUp.address = .ok address) :
    IsMadeBy { search with addresses := address :: search.addresses } group (name :: names)
      (lookUp :: lookUps) where
  subjects := by
    rw [attempts_found, List.take_succ_cons, List.map_cons, List.map_cons, asked, made.subjects]
  outcomes := by
    rw [List.map_cons, found, made.outcomes]
    rfl

variable (client : EndpointsClient World) (directory : EndpointDirectory)

/-- The names are looked up one after the other, and nothing else is looked up. -/
theorem Search.run_noting (names : List String) (world : World) (notes : List LookUp) :
    let search := run (directory.resolve (some client)) names world
    ∃ lookUps, search.IsMadeBy directory.identity.resourceGroup names lookUps ∧
      run (directory.resolve (some client.noting)) names (world, notes) =
        ⟨search.result, search.addresses, search.world, notes ++ lookUps⟩ := by
  induction names generalizing world notes with
  | nil => exact ⟨[], ⟨rfl, rfl⟩, by simp [run]⟩
  | cons name rest ih =>
      simp only [run, EndpointDirectory.resolve_noting]
      have first := EndpointDirectory.resolve_eq client directory name world
      cases answer : directory.resolve (some client) name world with
      | mk found after =>
        rw [answer, Prod.mk.injEq] at first
        cases found with
        | error error =>
            refine ⟨[directory.lookUp client name world], ⟨rfl, ?_⟩, rfl⟩
            simp [outcomes, ← first.1]
        | ok address =>
            obtain ⟨lookUps, made, ran⟩ :=
              ih after (notes ++ [directory.lookUp client name world])
            refine ⟨directory.lookUp client name world :: lookUps, ?_, ?_⟩
            · exact made.found rfl first.1.symm
            · simp only [ran, List.append_assoc, List.cons_append, List.nil_append]

/-! ## Passes -/

/-- The look-ups of a pass between two clusters, as its client notes them down. -/
def noted (client? : Option (EndpointsClient World)) (host owner : Cluster) (world : World) :
    List LookUp :=
  (run (reconcile (client?.map (·.noting))) host owner (world, [])).2.2.2.2

variable {client? : Option (EndpointsClient World)} {host owner : Cluster} {world : World}
variable {directory : EndpointDirectory} {links : LinkDirectory}

/-- A search comes to the same while its look-ups are noted down. Where there is no client nothing
is noted, and nothing is to be noted unless the search fails. -/
theorem lookUps_noting (client? : Option (EndpointsClient World)) (directory : EndpointDirectory)
    (links : LinkDirectory) (world : World) :
    let plain := lookUps client? directory links world
    ∃ notes, lookUps (client?.map (·.noting)) directory links (world, []) =
        ⟨plain.result, plain.addresses, plain.world, notes⟩ ∧
      (client?.isSome ∨ plain.result = .ok () →
        plain.IsMadeBy directory.identity.resourceGroup
          ((wanted directory.identity links).map (·.name)) notes) := by
  cases client? with
  | some client =>
      obtain ⟨notes, made, ran⟩ := Search.run_noting client directory
        ((wanted directory.identity links).map (·.name)) world []
      exact ⟨notes, ran, fun _ => made⟩
  | none =>
      refine ⟨[], ?_⟩
      unfold lookUps
      cases (wanted directory.identity links).map (·.name) with
      | nil => exact ⟨rfl, fun _ => ⟨rfl, rfl⟩⟩
      | cons name rest =>
          refine ⟨rfl, ?_⟩
          intro heard
          rcases heard with isSome | found
          · cases isSome
          · cases found

/-- A pass does not notice that its look-ups are noted down. -/
theorem run_noting (client? : Option (EndpointsClient World)) (host owner : Cluster)
    (world : World) :
    run (reconcile (client?.map (·.noting))) host owner (world, []) =
      let plain := run (reconcile client?) host owner world
      (plain.1, plain.2.1, plain.2.2.1, plain.2.2.2, noted client? host owner world) := by
  cases hosts : EndpointDirectory.ofCluster host with
  | error error => simp [noted, run, hosts]
  | ok directory =>
    cases owns : LinkDirectory.ofCluster owner with
    | error error => simp [noted, run, hosts, owns]
    | ok links =>
        rw [noted, run_reconcile_eq client? hosts owns, run_reconcile_eq _ hosts owns]
        cases obstacle? directory.identity links with
        | some error => rfl
        | none =>
            obtain ⟨notes, ran, -⟩ := lookUps_noting client? directory links world
            simp only [ran]
            rfl

/-- A pass that meets an obstacle looks nothing up. -/
theorem noted_of_obstacle {error : Error}
    (hosts : EndpointDirectory.ofCluster host = .ok directory)
    (owns : LinkDirectory.ofCluster owner = .ok links)
    (obstacle : obstacle? directory.identity links = some error) :
    noted client? host owner world = [] := by
  simp only [noted, run_reconcile_eq _ hosts owns, obstacle]

/-- A pass that meets no obstacle looks up what it wants. -/
theorem isMadeBy_noted (hosts : EndpointDirectory.ofCluster host = .ok directory)
    (owns : LinkDirectory.ofCluster owner = .ok links)
    (free : obstacle? directory.identity links = none)
    (heard : client?.isSome ∨ (lookUps client? directory links world).result = .ok ()) :
    (lookUps client? directory links world).IsMadeBy directory.identity.resourceGroup
      ((wanted directory.identity links).map (·.name)) (noted client? host owner world) := by
  obtain ⟨notes, ran, made⟩ := lookUps_noting client? directory links world
  have isNoted : noted client? host owner world = notes := by
    simp only [noted, run_reconcile_eq _ hosts owns, free, ran]
  rw [isNoted]
  exact made heard

end Pass

end ClusterLinks
