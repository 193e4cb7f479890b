import ClusterLinks.Proofs.Controller.Plan
import ClusterLinks.Proofs.Store.Failures

/-!
# Runs on record

A run can be watched. Every call to the store goes on record with its answer and with the clusters
as they are after it, and every look-up goes on record with what it asked for. What the record
says is decided call by call: a store on record is as unreliable as the store itself, and clients
leave the calls on record alone.
-/

namespace ClusterLinks

variable {World Inner α : Type}

/-- A call to a store with its answer, and the clusters as they are after it. -/
structure CallRecord where
  call : StoreCall
  answer : Except Error (Option Cluster)
  shelf : Shelf

/-- A world with the calls and the look-ups that were made in it. -/
structure Recorded (World : Type) where
  world : World
  calls : List CallRecord
  lookups : List (String × String)

namespace Recorded

/-- Nothing is on record yet. -/
def start (world : World) : Recorded World := ⟨world, [], []⟩

/-- Makes a call and puts it on record. -/
def call (view : World → Shelf) (call : StoreCall) (found? : α → Option Cluster)
    (action : Action World α) : Action (Recorded World) α := fun recorded =>
  let (result, world) := action recorded.world
  (result,
    { recorded with world, calls := recorded.calls ++ [⟨call, result.map found?, view world⟩] })

end Recorded

/-- A store whose calls go on record. -/
def ClusterStore.recorded (view : World → Shelf) (store : ClusterStore World) :
    ClusterStore (Recorded World) where
  get key := Recorded.call view (.get key) id (store.get key)
  persist before after :=
    Recorded.call view (.persist before after) (fun _ => none) (store.persist before after)
  addFinalizer key finalizer :=
    Recorded.call view (.addFinalizer key finalizer) (fun _ => none)
      (store.addFinalizer key finalizer)
  removeFinalizer key finalizer :=
    Recorded.call view (.removeFinalizer key finalizer) (fun _ => none)
      (store.removeFinalizer key finalizer)

/-- A client whose look-ups go on record. -/
def EndpointsClient.recorded (client : EndpointsClient World) :
    EndpointsClient (Recorded World) where
  lookup group name recorded :=
    let (result, world) := client.lookup group name recorded.world
    (result, { recorded with world, lookups := recorded.lookups ++ [(group, name)] })

/-- Clients whose look-ups go on record. -/
def ClientFactory.recorded (clients : ClientFactory World) : ClientFactory (Recorded World) where
  client cluster := do
    let client ← (clients.client cluster).within (·.world) fun world recorded =>
      { recorded with world }
    pure client.recorded

variable {view : World → Shelf} {store : ClusterStore World} {clients : ClientFactory World}

/-- A store is as unreliable on record as it is off record. -/
theorem ClusterStore.IsUnreliable.recorded (unreliable : store.IsUnreliable view) :
    (store.recorded view).IsUnreliable fun recorded => view recorded.world where
  get key recorded := unreliable.get key recorded.world
  persist before after recorded := unreliable.persist before after recorded.world
  addFinalizer key finalizer recorded := unreliable.addFinalizer key finalizer recorded.world
  removeFinalizer key finalizer recorded := unreliable.removeFinalizer key finalizer recorded.world

namespace ClientFactory

theorem recorded_client_run (clients : ClientFactory World) (cluster : Cluster)
    (recorded : Recorded World) :
    clients.recorded.client cluster recorded =
      ((clients.client cluster recorded.world).1.map EndpointsClient.recorded,
        { recorded with world := (clients.client cluster recorded.world).2 }) := by
  simp only [ClientFactory.recorded, Action.bind_run, Action.within_run]
  cases (clients.client cluster recorded.world).1 <;> rfl

/-- The client on record that a factory finds is the client that it finds off record. -/
theorem exists_client_of_recorded {cluster : Cluster} {recorded : Recorded World}
    {client : EndpointsClient (Recorded World)}
    (found : (clients.recorded.client cluster recorded).1 = .ok client) :
    ∃ original, (clients.client cluster recorded.world).1 = .ok original ∧
      client = original.recorded := by
  rw [recorded_client_run] at found
  cases answer : (clients.client cluster recorded.world).1 with
  | error error =>
      rw [answer] at found
      cases found
  | ok original =>
      rw [answer] at found
      cases found
      exact ⟨original, rfl, rfl⟩

/-- Clients make no calls to a store. -/
theorem recorded_spares_calls (clients : ClientFactory World) :
    clients.recorded.Spares fun recorded => recorded.calls where
  call cluster recorded := by
    rw [recorded_client_run]
  client cluster recorded client found := by
    obtain ⟨original, -, rfl⟩ := exists_client_of_recorded found
    exact fun _ _ _ => rfl

/-- Clients that leave the clusters alone do so on record, too. -/
theorem Spares.recorded (spares : clients.Spares view) :
    clients.recorded.Spares fun recorded => (view recorded.world, recorded.calls) where
  call cluster recorded := by
    rw [recorded_client_run]
    simp only [spares.call cluster recorded.world]
  client cluster recorded client found := by
    obtain ⟨original, given, rfl⟩ := exists_client_of_recorded found
    intro group name recorded
    exact Prod.ext (spares.client _ _ original given group name recorded.world) rfl

end ClientFactory

end ClusterLinks
