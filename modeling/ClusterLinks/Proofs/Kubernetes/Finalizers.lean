import ClusterLinks.Proofs.Kubernetes.Guarding

/-!
# Finalizers of others

Whoever changes the finalizers of a cluster reads the list first and then sends it back whole.
Unlike the change of a scope, this is not pinned to the version that was read. What others did to
the list in between is undone, and the server has no reason to refuse. Where the list that is sent
is empty, a cluster that is being deleted may be gone for good.
-/

namespace ClusterLinks

variable {World : Type}

/-- A connection on which others take their turn right before each patch arrives. -/
def ApiConnection.interrupted (others : World → World) (connection : ApiConnection World) :
    ApiConnection World where
  send
    | .get target => connection.send (.get target)
    | .mergePatch target patch =>
        fun world => connection.send (.mergePatch target patch) (others world)

inductive FinalizerChange where
  | add
  | remove
  deriving DecidableEq

namespace FinalizerChange

/-- The call of a store that makes the change. -/
def call (store : ClusterStore World) (key : ObjectKey) (finalizer : String) :
    FinalizerChange → Action World Unit
  | add => store.addFinalizer key finalizer
  | remove => store.removeFinalizer key finalizer

/-- Whether there is nothing to change. -/
def isDone (finalizer : String) (names : List String) : FinalizerChange → Bool
  | add => names.contains finalizer
  | remove => !names.contains finalizer

/-- The list with the change. -/
def apply (finalizer : String) (names : List String) : FinalizerChange → List String
  | add => names ++ [finalizer]
  | remove => names.filter (· ≠ finalizer)

/-- Of the others, the same are in the list after the change. -/
theorem mem_apply_of_ne (change : FinalizerChange) {finalizer other : String}
    (different : other ≠ finalizer) (names : List String) :
    other ∈ change.apply finalizer names ↔ other ∈ names := by
  cases change <;> simp [apply, different]

theorem mem_apply_self (change : FinalizerChange) (finalizer : String) (names : List String) :
    finalizer ∈ change.apply finalizer names ↔ change = add := by
  cases change <;> simp [apply]

variable {connection : ApiConnection World} {slot : World → Slot} {key : ObjectKey}
  {others : World → World} {world : World} {finalizer : String}

theorem get_interrupted {α : Type} (reader : Reader α) (kind : ObjectKind) (key : ObjectKey) :
    (connection.interrupted others).get reader kind key = connection.get reader kind key := by
  rw [ApiConnection.get, ApiConnection.get, ApiRequest.get?]
  cases ApiRequest.target? kind key "" <;> rfl

/-- A reader does not notice the others. -/
theorem answers_interrupted (answers : connection.Answers slot key world) :
    (connection.interrupted others).Answers slot key world := by
  refine ⟨?_, ?_, ?_⟩
  · intro request made
    rcases Option.map_eq_some_iff.mp made with ⟨target, -, rfl⟩
    exact answers.reads _ made
  · intro request made
    rcases Option.map_eq_some_iff.mp made with ⟨target, -, rfl⟩
    exact answers.finds _ made
  · intro request made
    rcases Option.map_eq_some_iff.mp made with ⟨target, -, rfl⟩
    exact answers.misses _ made

/-- A list that was sent arrived after the turn of the others. -/
theorem patchFinalizers_interrupted {names : List String}
    (succeeds : (ClusterStore.patchFinalizers (connection.interrupted others) key names world).1 =
      .ok ()) :
    ClusterStore.patchFinalizers (connection.interrupted others) key names world =
      ClusterStore.patchFinalizers connection key names (others world) := by
  rw [ClusterStore.patchFinalizers, ApiConnection.mergePatch] at succeeds ⊢
  rw [ClusterStore.patchFinalizers, ApiConnection.mergePatch]
  rw [ApiRequest.mergePatch?] at succeeds ⊢
  cases made : ApiRequest.target? .cluster key ("?&fieldManager=" ++ Conventions.fieldManager) with
  | some target => rfl
  | none =>
      rw [made] at succeeds
      cases succeeds

/-- A change goes on from the list that was read. -/
theorem call_of_get {cluster : Cluster} {after : World} (change : FinalizerChange)
    (finalizer : String)
    (reads : connection.get Cluster.reader .cluster key world = (.ok cluster, after)) :
    change.call (.kubernetes connection) key finalizer world =
      if change.isDone finalizer cluster.holdings.finalizers then (.ok (), after)
      else ClusterStore.patchFinalizers connection key
        (change.apply finalizer cluster.holdings.finalizers) after := by
  have finds : ClusterStore.find? connection key world = (.ok (some cluster), after) := by
    rw [ClusterStore.find?, ApiConnection.find?, Action.bind_run, Action.attempt_run, reads]
    rfl
  cases change with
  | add =>
      change ClusterStore.sendFinalizer connection key finalizer world = _
      rw [ClusterStore.sendFinalizer, Action.bind_of_ok reads]
      by_cases there : finalizer ∈ cluster.metadata.finalizers.getD [] <;>
        simp [isDone, apply, Cluster.holdings, there]
  | remove =>
      change ClusterStore.dropFinalizer connection key finalizer world = _
      rw [ClusterStore.dropFinalizer, Action.bind_of_ok finds]
      by_cases there : finalizer ∈ cluster.metadata.finalizers.getD [] <;>
        simp [isDone, apply, Cluster.holdings, there]

/-- What is found was read. -/
theorem get_of_find? {cluster : Cluster}
    (found : (ClusterStore.find? connection key world).1 = .ok (some cluster)) :
    (connection.get Cluster.reader .cluster key world).1 = .ok cluster := by
  rw [ClusterStore.find?, ApiConnection.find?, Action.bind_run, Action.attempt_run] at found
  cases answered : connection.get Cluster.reader .cluster key world with
  | mk result after =>
    rw [answered] at found
    cases result with
    | ok cluster =>
        cases found
        rfl
    | error error =>
        cases error with
        | kubernetes cause => cases missing : cause.hasMissingCode <;> simp [missing] at found
        | _ => cases found

/-- A change that succeeds has read the object that is there. -/
theorem get_of_call {read : Cluster} {change : FinalizerChange}
    (answers : connection.Answers slot key world) (isRead : (slot world).cluster? = some read)
    (succeeds : (change.call (.kubernetes connection) key finalizer world).1 = .ok ()) :
    (connection.get Cluster.reader .cluster key world).1 = .ok read := by
  have isThere : (slot world).object? ≠ none := by
    intro absent
    rw [Slot.cluster?, absent] at isRead
    cases isRead
  have answered : ∃ cluster,
      (connection.get Cluster.reader .cluster key world).1 = .ok cluster := by
    cases change with
    | add => exact Action.exists_of_bind_ok succeeds
    | remove =>
        rcases Action.exists_of_bind_ok succeeds with ⟨cluster?, found⟩
        cases cluster? with
        | none => exact absurd (answers.find?_run.2.2 found) isThere
        | some cluster => exact ⟨cluster, get_of_find? found⟩
  rcases answered with ⟨cluster, found⟩
  have same : some cluster = some read := (answers.get_run.2.1 cluster found).symm.trans isRead
  cases same
  exact found

/-- A list that is sent with success is stored, and nothing else is changed, unless an empty list
has made the object go. -/
theorem holdings_after_patchFinalizers {stored : Cluster} {names : List String}
    (guards : connection.Guards slot key world) (filed : (slot world).IsFiled key)
    (isStored : (slot world).cluster? = some stored)
    (succeeds : (ClusterStore.patchFinalizers connection key names world).1 = .ok ()) :
    let after := slot (ClusterStore.patchFinalizers connection key names world).2
    (∃ cluster, after.cluster? = some cluster ∧
        cluster.holdings = { stored.holdings with finalizers := names }) ∨
      after.object? = none ∧ stored.isDeleting = true ∧ stored.holdings.finalizers ≠ [] ∧
        names = [] := by
  intro after
  rcases guards.mergePatch_run (.inr ⟨names, rfl⟩) rfl with ⟨-, failed⟩ | ⟨document, takes⟩
  · exact absurd succeeds failed
  · rw [Slot.cluster?, takes.found] at isStored
    rcases (filed document takes.found).exists_metadata with ⟨entries, -, rfl, -⟩
    have merged := Patch.read_merged_finalizers isStored names
    rcases takes.outcome with holds | ⟨gone, loses⟩
    · exact .inl (holds _ merged)
    · rcases (Json.losesLastFinalizer_iff isStored merged).mp loses with ⟨some, deleting, none⟩
      exact .inr ⟨gone, deleting, some, none⟩

/-- The world when the list of a change arrives. -/
def arrival (connection : ApiConnection World) (others : World → World) (key : ObjectKey)
    (world : World) : World :=
  others (connection.get Cluster.reader .cluster key world).2

/-- A change of finalizers that succeeds does nothing if there is nothing to change in the list
that it reads. Otherwise it leaves that list with its own change, and everything else as the others
have left it. So the finalizers of others stay as they have left them exactly if they are those
that were read. Only if nothing is left of the list may the object be gone instead, and only if its
deletion had been asked for. -/
theorem holdings_after_call {change : FinalizerChange} {read stored : Cluster}
    (answers : connection.Answers slot key world)
    (guards : connection.Guards slot key (arrival connection others key world))
    (isRead : (slot world).cluster? = some read)
    (filed : (slot (arrival connection others key world)).IsFiled key)
    (isStored : (slot (arrival connection others key world)).cluster? = some stored)
    (succeeds : (change.call (.kubernetes (connection.interrupted others)) key finalizer world).1 =
      .ok ()) :
    let known := read.holdings.finalizers
    let after :=
      slot (change.call (.kubernetes (connection.interrupted others)) key finalizer world).2
    if change.isDone finalizer known then after = slot world
    else
      (∃ cluster, after.cluster? = some cluster ∧
        cluster.holdings = { stored.holdings with finalizers := change.apply finalizer known } ∧
        (finalizer ∈ cluster.holdings.finalizers ↔ change = add) ∧
        ((∀ other, other ≠ finalizer →
            (other ∈ cluster.holdings.finalizers ↔ other ∈ stored.holdings.finalizers)) ↔
          ∀ other, other ≠ finalizer →
            (other ∈ known ↔ other ∈ stored.holdings.finalizers))) ∨
      after.object? = none ∧ stored.isDeleting = true ∧ stored.holdings.finalizers ≠ [] ∧
        change.apply finalizer known = [] := by
  intro known after
  have found := get_of_call (answers_interrupted answers) isRead succeeds
  have reads : (connection.interrupted others).get Cluster.reader .cluster key world =
      (.ok read, (connection.get Cluster.reader .cluster key world).2) := by
    rw [get_interrupted] at found ⊢
    exact Prod.ext found rfl
  have run := call_of_get change finalizer reads
  cases done : change.isDone finalizer known with
  | true =>
      rw [if_pos done] at run
      simp only [after, run]
      exact answers.get_run.1
  | false =>
      rw [if_neg (by simp [known, done])] at run
      rw [run] at succeeds
      have arrived := patchFinalizers_interrupted succeeds
      rw [arrived] at run succeeds
      have isAfter : after = slot (ClusterStore.patchFinalizers connection key
          (change.apply finalizer known) (arrival connection others key world)).2 :=
        congrArg (fun ended => slot ended.2) run
      rw [if_neg (by simp), isAfter]
      rcases holdings_after_patchFinalizers guards filed isStored succeeds with
        ⟨cluster, found, holds⟩ | gone
      · refine .inl ⟨cluster, found, holds, ?_⟩
        rw [holds]
        refine ⟨change.mem_apply_self finalizer known, ?_⟩
        constructor
        · intro kept other different
          exact (change.mem_apply_of_ne different known).symm.trans (kept other different)
        · intro same other different
          exact (change.mem_apply_of_ne different known).trans (same other different)
      · exact .inr gone

open ApiServer.Sample in
/-- Others annotate the cluster meanwhile. Their annotation and their finalizer are still there. -/
theorem holdings_after_call_sample :
    let others := storing "12" [("paused", .string "no")] ["other.dev/keep"]
    let server := storing "7" [] ["other.dev/keep"] {}
    let after := (add.call (.kubernetes (ApiServer.connection.interrupted others)) hub
      Conventions.finalizer server).2
    ∃ cluster, (ApiServer.slotAt path after).cluster? = some cluster ∧
      cluster.holdings.annotations.get? "paused" = some "no" ∧
      cluster.holdings.finalizers = ["other.dev/keep", Conventions.finalizer] := by
  intro others server after
  have begins : (ApiServer.slotAt path server).IsFiled hub ∧
      (ApiServer.slotAt path server).issued < Decimal.max64 ∧
      (ApiServer.slotAt path server).cluster?.map Cluster.holdings =
        some
          { annotations := ∅, finalizers := ["other.dev/keep"]
            subnets := [{ name := "nodes" }] } := by
    decide +kernel
  have arrives : (ApiServer.slotAt path (arrival ApiServer.connection others hub server)).IsFiled
        hub ∧
      (ApiServer.slotAt path (arrival ApiServer.connection others hub server)).issued <
        Decimal.max64 ∧
      (ApiServer.slotAt path (arrival ApiServer.connection others hub server)).cluster?.map
          Cluster.holdings =
        some
          { annotations := .ofEntries [("paused", "no")], finalizers := ["other.dev/keep"]
            subnets := [{ name := "nodes" }] } := by
    decide +kernel
  have succeeds : (add.call (.kubernetes (ApiServer.connection.interrupted others)) hub
      Conventions.finalizer server).1 = .ok () := by
    decide +kernel
  rcases begins with ⟨filedBefore, roomBefore, holdsBefore⟩
  rcases arrives with ⟨filedThen, roomThen, holdsThen⟩
  rcases Option.map_eq_some_iff.mp holdsBefore with ⟨read, isRead, readHolds⟩
  rcases Option.map_eq_some_iff.mp holdsThen with ⟨stored, isStored, storedHolds⟩
  have result := holdings_after_call (guards filedBefore roomBefore).toAnswers
    (guards filedThen roomThen) isRead filedThen isStored succeeds
  rw [readHolds, storedHolds, if_neg (by decide)] at result
  rcases result with ⟨cluster, found, holds, -⟩ | ⟨-, -, -, nothing⟩
  · exact ⟨cluster, found, by rw [holds]; rfl, by rw [holds]; rfl⟩
  · exact absurd nothing (by decide)

open ApiServer.Sample in
/-- Somebody else adds a finalizer between the two requests of a change, and it is gone. -/
theorem foreign_finalizer_lost :
    let others := storing "12" [] ["other.dev/keep"]
    let change := add.call (.kubernetes (ApiServer.connection.interrupted others)) hub
      Conventions.finalizer server
    change.1 = .ok () ∧
      (ApiServer.slotAt path (arrival ApiServer.connection others hub server)).cluster?.map
          (·.holdings.finalizers) = some ["other.dev/keep"] ∧
      (ApiServer.slotAt path change.2).cluster?.map (·.holdings.finalizers) =
        some [Conventions.finalizer] := by
  decide +kernel

end FinalizerChange

end ClusterLinks
