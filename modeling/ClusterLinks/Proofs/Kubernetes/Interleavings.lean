import ClusterLinks.Proofs.Kubernetes.Guarding

/-!
# Scopes side by side

Any number of scopes are loaded from one object and closed again while others write to it. What a
scope sends is pinned to the version that it was loaded at, so the server takes it only if nobody
wrote in between. The writes that the server took can therefore be made one after the other, each
by somebody who has seen all that was written before.
-/

namespace ClusterLinks.Interleaving

open ApiConnection

variable {World : Type}

/-- A write that the server took. -/
inductive Write where
  /-- Somebody worked on the cluster of a scope that was loaded after so many writes. -/
  | scope (since : Nat) (work : Cluster → Cluster)
  | other

/-- The second object comes of the first one if the writes are made one after the other. A scope
that writes was loaded after all the writes before, so it works on what they left. -/
inductive Serial (start : Option Json) : List Write → Option Json → Prop where
  | start : Serial start [] start
  | scope {writes : List Write} {document next : Json} {before after : Cluster}
      {work : Cluster → Cluster} :
      Serial start writes (some document) →
      Cluster.read document = some before → Cluster.read next = some after →
      after.holdings = (before.adopting (work before)).holdings →
      Serial start (writes ++ [.scope writes.length work]) (some next)
  | other {writes : List Write} {object? : Option Json} (next? : Option Json) :
      Serial start writes object? → Serial start (writes ++ [.other]) next?

/-- The world, the writes so far, and the scopes, each with the number of writes before it was
loaded. -/
structure State (World : Type) where
  world : World
  writes : List Write
  scopes : List (Nat × ClusterScope)

inductive Move (World : Type) where
  | load
  /-- Somebody works on the cluster of a scope and closes the scope. -/
  | close (number : Nat) (work : Cluster → Cluster)
  /-- What others do. -/
  | other (change : World → World)

/-- The scope when the work on its cluster is done. -/
def worked (scope : ClusterScope) (work : Cluster → Cluster) : ClusterScope :=
  { scope with current := work scope.loaded }

namespace State

/-- A new world; if something else is stored in it, that was a write. -/
def record (slot : World → Slot) (write : Write) (world : World) (state : State World) :
    State World :=
  { state with
    world
    writes := if slot world = slot state.world then state.writes else state.writes ++ [write] }

variable (connection : ApiConnection World) (slot : World → Slot) (key : ObjectKey)

def step (state : State World) : Move World → State World
  | .load =>
      let (result, world) := ClusterScope.load (.kubernetes connection) key state.world
      match result with
      | .ok (some scope) =>
          { state with world, scopes := state.scopes ++ [(state.writes.length, scope)] }
      | _ => { state with world }
  | .close number work =>
      match state.scopes[number]? with
      | some (since, scope) =>
          let (_, world) := (worked scope work).close (.kubernetes connection) state.world
          state.record slot (.scope since work) world
      | none => state
  | .other change => state.record slot .other (change state.world)

def run (state : State World) (moves : List (Move World)) : State World :=
  moves.foldl (step connection slot key) state

/-- The server guards the object, work keeps the key and writes subnets that can be read back, and
the object gets a newer version when others write to it. -/
def Allows (state : State World) : Move World → Prop
  | .load => connection.Answers slot key state.world
  | .close number work =>
      connection.Guards slot key state.world ∧
        ∀ entry ∈ state.scopes[number]?, (work entry.2.loaded).key = entry.2.loaded.key ∧
          ∀ subnet ∈ (work entry.2.loaded).subnets, subnet.IsTidy
  | .other change => (slot state.world).Grows key (slot (change state.world))

/-- Every move is allowed when it is made. -/
def AllowsAll (state : State World) : List (Move World) → Prop
  | [] => True
  | move :: rest =>
      state.Allows connection slot key move ∧
        (state.step connection slot key move).AllowsAll rest

end State

/-! ## What every move preserves -/

/-- The number of the version that a scope was loaded at is not above the last one. If it is the
last one, nobody has written since, and the scope holds what is stored. -/
structure Tracks (slot : World → Slot) (key : ObjectKey) (state : State World) (since : Nat)
    (loaded : Cluster) : Prop where
  sameKey : loaded.key = key
  version : ∃ text number, loaded.metadata.resourceVersion = some text ∧
    Decimal.natural? text = some number ∧
    number ≤ (slot state.world).issued ∧
    (number = (slot state.world).issued →
      since = state.writes.length ∧ (slot state.world).cluster? = some loaded)

/-- The writes so far, made one after the other, lead to what is stored. -/
structure IsSound (slot : World → Slot) (key : ObjectKey) (start : Option Json)
    (state : State World) : Prop where
  filed : (slot state.world).IsFiled key
  serial : Serial start state.writes (slot state.world).object?
  tracks : ∀ entry ∈ state.scopes, Tracks slot key state entry.1 entry.2.loaded

section Preservation

variable {connection : ApiConnection World} {slot : World → Slot} {key : ObjectKey}
  {start : Option Json} {state : State World}

/-- What was just loaded tracks the object. -/
theorem tracks_of_cluster? {loaded : Cluster} (filed : (slot state.world).IsFiled key)
    (found : (slot state.world).cluster? = some loaded) :
    Tracks slot key state state.writes.length loaded := by
  rcases Option.bind_eq_some_iff.mp found with ⟨document, stored, reads⟩
  rcases (filed document stored).of_read reads with ⟨sameKey, text, version, -, denotes⟩
  exact ⟨sameKey, text, _, version, denotes, Nat.le_refl _, fun _ => ⟨rfl, found⟩⟩

/-- A write leaves every scope behind. -/
theorem Tracks.of_newer {since : Nat} {loaded : Cluster} {state' : State World}
    (tracks : Tracks slot key state since loaded)
    (newer : (slot state.world).issued < (slot state'.world).issued) :
    Tracks slot key state' since loaded := by
  rcases tracks.version with ⟨text, number, version, denotes, bounded, -⟩
  refine ⟨tracks.sameKey, text, number, version, denotes, by omega, ?_⟩
  intro last
  omega

theorem Tracks.of_same {since : Nat} {loaded : Cluster} {state' : State World}
    (tracks : Tracks slot key state since loaded)
    (same : slot state'.world = slot state.world)
    (sameWrites : state'.writes = state.writes) : Tracks slot key state' since loaded := by
  rcases tracks with ⟨sameKey, version⟩
  rw [← same, ← sameWrites] at version
  exact ⟨sameKey, version⟩

theorem record_of_same {write : Write} {world : World} (same : slot world = slot state.world) :
    state.record slot write world = { state with world } := by
  rw [State.record, if_pos same]

theorem record_of_newer {write : Write} {world : World}
    (newer : (slot state.world).issued < (slot world).issued) :
    state.record slot write world =
      { state with world, writes := state.writes ++ [write] } := by
  have different : slot world ≠ slot state.world := by
    intro same
    rw [same] at newer
    exact Nat.lt_irrefl _ newer
  rw [State.record, if_neg different]

/-- Nothing that was not stored counts. -/
theorem IsSound.of_same (sound : IsSound slot key start state) {world : World}
    (same : slot world = slot state.world) :
    IsSound slot key start { state with world } := by
  rcases sound with ⟨filed, serial, tracks⟩
  rw [← same] at filed serial
  exact ⟨filed, serial, fun entry member => (tracks entry member).of_same same rfl⟩

/-- A write that the server took is recorded. -/
theorem IsSound.of_newer (sound : IsSound slot key start state) {write : Write} {world : World}
    (newer : (slot state.world).issued < (slot world).issued) (filed : (slot world).IsFiled key)
    (serial : Serial start (state.writes ++ [write]) (slot world).object?) :
    IsSound slot key start { state with world, writes := state.writes ++ [write] } :=
  ⟨filed, serial, fun entry member => (sound.tracks entry member).of_newer newer⟩

/-- A document that takes the change of a scope is the one that the scope was loaded from, and
nobody has written since. -/
theorem Tracks.of_takes {since : Nat} {loaded current : Cluster} {patch stored : Json}
    {after : Slot} (tracks : Tracks slot key state since loaded)
    (filed : (slot state.world).IsFiled key)
    (patched : Patch.between? loaded current = some patch)
    (takes : (slot state.world).Takes key patch after stored) :
    since = state.writes.length ∧ (slot state.world).cluster? = some loaded := by
  rcases tracks.version with ⟨text, number, version, denotes, -, whenLast⟩
  have storedVersion : ApiServer.version? stored = some (.string text) := by
    have accepted := takes.accepted
    rw [ApiServer.accepts, Patch.version?_of_between? patched, version] at accepted
    simpa using accepted
  have storedNumber := (filed stored takes.found).version
  rw [ApiServer.versionNumber?, storedVersion] at storedNumber
  have isLast : number = (slot state.world).issued :=
    Option.some.inj (denotes.symm.trans storedNumber)
  exact whenLast isLast

/-- The change that the server took from a scope, made after all the writes before. -/
theorem IsSound.serial_of_holds (sound : IsSound slot key start state) {loaded cluster : Cluster}
    {work : Cluster → Cluster} {after : Slot}
    (isLoaded : (slot state.world).cluster? = some loaded)
    (found : after.cluster? = some cluster)
    (holds : cluster.holdings = (loaded.adopting (work loaded)).holdings) :
    Serial start (state.writes ++ [.scope state.writes.length work]) after.object? := by
  rcases Option.bind_eq_some_iff.mp isLoaded with ⟨stored, isStored, storedReads⟩
  rcases Option.bind_eq_some_iff.mp found with ⟨next, nextStored, nextReads⟩
  have before := sound.serial
  rw [isStored] at before
  rw [nextStored]
  exact .scope before storedReads nextReads holds

/-- Closing a scope writes nothing, and then it fails or there was nothing to write; or else the
scope had seen all the writes before, and its own is recorded after them. -/
theorem IsSound.close (sound : IsSound slot key start state) {number since : Nat}
    {scope : ClusterScope} {work : Cluster → Cluster}
    (isScope : state.scopes[number]? = some (since, scope))
    (allowed : state.Allows connection slot key (.close number work)) :
    let outcome := (worked scope work).close (.kubernetes connection) state.world
    let state' := state.step connection slot key (.close number work)
    IsSound slot key start state' ∧
      ((outcome.1 = .ok () → Patch.between? scope.loaded (work scope.loaded) = none) ∨
        since = state.writes.length ∧ (slot state.world).cluster? = some scope.loaded ∧
          state'.writes = state.writes ++ [.scope since work]) := by
  intro outcome state'
  rcases allowed with ⟨guards, lawful⟩
  rcases lawful (since, scope) isScope with ⟨keepsKey, tidy⟩
  have tracks := sound.tracks (since, scope) (List.mem_of_getElem? isScope)
  have stepped : state' = state.record slot (.scope since work) outcome.2 := by
    simp only [state', State.step, isScope]
    rfl
  have sameKey : (worked scope work).current.key = key := keepsKey.trans tracks.sameKey
  rcases guards.close_run sameKey with
    ⟨same, nothing⟩ | ⟨patch, stored, patched, takes⟩
  · rw [stepped, record_of_same same]
    exact ⟨sound.of_same same, .inl nothing⟩
  · rcases tracks.of_takes sound.filed patched takes with ⟨rfl, isLoaded⟩
    rcases takes.of_between? sound.filed isLoaded tidy patched with
      ⟨newer, filed, cluster, found, holds⟩
    have serial := sound.serial_of_holds isLoaded found holds
    rw [stepped, record_of_newer newer]
    exact ⟨sound.of_newer newer filed serial, .inr ⟨rfl, isLoaded, rfl⟩⟩

/-- Whatever move is made, the writes remain serial. -/
theorem IsSound.step (sound : IsSound slot key start state) {move : Move World}
    (allowed : state.Allows connection slot key move) :
    IsSound slot key start (state.step connection slot key move) := by
  cases move with
  | load =>
      rcases Answers.load_run allowed with ⟨same, isStored⟩
      rw [State.step]
      cases loaded : ClusterScope.load (.kubernetes connection) key state.world with
      | mk result world =>
        rw [loaded] at same isStored
        have sound' := sound.of_same same
        rcases result with error | (_ | scope)
        · exact sound'
        · exact sound'
        · refine ⟨sound'.filed, sound'.serial, ?_⟩
          intro entry member
          rcases List.mem_append.mp member with before | added
          · exact (sound'.tracks entry before).of_same rfl rfl
          · rw [List.mem_singleton] at added
            subst added
            have found : (slot world).cluster? = some scope.loaded := by
              rw [same]
              exact isStored scope rfl
            exact tracks_of_cluster? sound'.filed found
  | close number work =>
      cases isScope : state.scopes[number]? with
      | some entry => exact (sound.close isScope allowed).1
      | none =>
          simp only [State.step, isScope]
          exact sound
  | other change =>
      rw [State.step]
      rcases allowed with same | ⟨newer, filed⟩
      · rw [record_of_same same]
        exact sound.of_same same
      · rw [record_of_newer newer]
        exact sound.of_newer newer filed (.other _ sound.serial)

theorem IsSound.run (sound : IsSound slot key start state) {moves : List (Move World)}
    (allowed : state.AllowsAll connection slot key moves) :
    IsSound slot key start (state.run connection slot key moves) := by
  induction moves generalizing state with
  | nil => exact sound
  | cons move rest ih =>
      rcases allowed with ⟨now, later⟩
      exact ih (sound.step now) later

end Preservation

/-! ## No update is lost -/

namespace State

/-- Nothing was written and nothing is loaded yet. -/
def start (world : World) : State World := ⟨world, [], []⟩

end State

variable {connection : ApiConnection World} {slot : World → Slot} {key : ObjectKey}

theorem isSound_start {world : World} (filed : (slot world).IsFiled key) :
    IsSound slot key (slot world).object? (State.start world) :=
  ⟨filed, .start, by simp [State.start]⟩

/-- However scopes are loaded and closed while others write to the object, what is stored in the
end is what the writes that the server took make of it one after the other, each scope working on
what the writes before its own left. And whenever a scope with a change to send is closed and this
succeeds, it is such a write: the scope still holds what is stored, nobody having written since it
was loaded. -/
theorem serial_of_allowed {world : World} {moves : List (Move World)}
    (filed : (slot world).IsFiled key)
    (allowed : (State.start world).AllowsAll connection slot key moves) :
    let state := (State.start world).run connection slot key moves
    Serial (slot world).object? state.writes (slot state.world).object? ∧
      ∀ number since scope work, state.scopes[number]? = some (since, scope) →
        state.Allows connection slot key (.close number work) →
        Patch.between? scope.loaded (work scope.loaded) ≠ none →
        ((worked scope work).close (.kubernetes connection) state.world).1 = .ok () →
          (slot state.world).cluster? = some scope.loaded ∧ since = state.writes.length ∧
            (state.step connection slot key (.close number work)).writes =
              state.writes ++ [.scope since work] := by
  intro state
  have sound : IsSound slot key (slot world).object? state := (isSound_start filed).run allowed
  refine ⟨sound.serial, ?_⟩
  intro number since scope work isScope closeAllowed hasChange succeeded
  rcases (sound.close isScope closeAllowed).2 with nothing | ⟨fresh, isStored, recorded⟩
  · exact absurd (nothing succeeded) hasChange
  · exact ⟨isStored, fresh, recorded⟩

namespace Sample

open ApiServer.Sample

/-- Adds an endpoint to every subnet. -/
def host (name : String) (cluster : Cluster) : Cluster :=
  cluster.withSubnets <| cluster.subnets.map fun subnet =>
    { subnet with endpoints := subnet.endpoints ++ [{ name }] }

/-- Somebody annotates the cluster while it is in a scope. What the scope has to write is refused,
so the cluster is loaded again. -/
def moves : List (Move ApiServer) :=
  [.load, .other (storing "12" [("paused", .string "no")] []),
    .close 0 (host "red"), .load]

def state : State ApiServer :=
  (State.start server).run ApiServer.connection (ApiServer.slotAt path) hub moves

/-- The state after the second scope is closed as well. -/
def final : State ApiServer :=
  state.step ApiServer.connection (ApiServer.slotAt path) hub (.close 1 (host "red"))

end Sample

open ApiServer.Sample Sample in
/-- An endpoint and an annotation come together, none of them lost. -/
theorem serial_of_allowed_sample :
    Serial (some (document "7" [] [])) state.writes
        (ApiServer.slotAt path state.world).object? ∧
      (∃ scope, state.scopes[1]? = some (1, scope) ∧
        (ApiServer.slotAt path state.world).cluster? = some scope.loaded ∧
        final.writes = state.writes ++ [.scope 1 (host "red")]) ∧
      (ApiServer.slotAt path final.world).cluster?.map Cluster.holdings =
        some
          { annotations := .ofEntries [("paused", "no")], finalizers := []
            subnets := [{ name := "nodes", endpoints := [{ name := "red" }] }] } := by
  have filed : (ApiServer.slotAt path server).IsFiled hub := by decide +kernel
  have begins : (ApiServer.slotAt path server).object? = some (document "7" [] []) := by
    decide +kernel
  have allowed : (State.start server).AllowsAll ApiServer.connection (ApiServer.slotAt path) hub
      moves := by
    refine ⟨(guards filed ?_).toAnswers, .inr ?_, ⟨guards ?_ ?_, ?_⟩, (guards ?_ ?_).toAnswers,
      trivial⟩
    all_goals decide +kernel
  have ends : (state.scopes[1]?).map Prod.fst = some 1 ∧
      (∀ entry ∈ state.scopes[1]?,
        ((host "red" entry.2.loaded).key = entry.2.loaded.key ∧
          ∀ subnet ∈ (host "red" entry.2.loaded).subnets, subnet.IsTidy) ∧
        Patch.between? entry.2.loaded (host "red" entry.2.loaded) ≠ none ∧
        ((worked entry.2 (host "red")).close (.kubernetes ApiServer.connection) state.world).1 =
          .ok ()) ∧
      ((ApiServer.slotAt path state.world).IsFiled hub ∧
        (ApiServer.slotAt path state.world).issued < Decimal.max64) ∧
      (ApiServer.slotAt path final.world).cluster?.map Cluster.holdings =
        some
          { annotations := .ofEntries [("paused", "no")], finalizers := []
            subnets := [{ name := "nodes", endpoints := [{ name := "red" }] }] } := by
    decide +kernel
  rcases serial_of_allowed filed allowed with ⟨serial, closes⟩
  rcases ends with ⟨isLoaded, closing, ⟨filedThere, roomThere⟩, holds⟩
  rcases Option.map_eq_some_iff.mp isLoaded with ⟨⟨-, scope⟩, isScope, rfl⟩
  rcases closing (1, scope) isScope with ⟨lawful, hasChange, succeeded⟩
  have closeAllowed : state.Allows ApiServer.connection (ApiServer.slotAt path) hub
      (.close 1 (host "red")) :=
    ⟨guards filedThere roomThere, fun entry member => (closing entry member).1⟩
  rcases closes 1 1 scope (host "red") isScope closeAllowed hasChange succeeded with
    ⟨isStored, -, recorded⟩
  rw [begins] at serial
  exact ⟨serial, ⟨scope, isScope, isStored, recorded⟩, holds⟩

end ClusterLinks.Interleaving
