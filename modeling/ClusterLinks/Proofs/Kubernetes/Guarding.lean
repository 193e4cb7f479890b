import ClusterLinks.Kubernetes.ClusterStore
import ClusterLinks.Proofs.Kubernetes.Filing
import ClusterLinks.Proofs.Store.Failures

/-!
# Servers that guard versions

A server that guards an object answers a reader with what it stores. It refuses a patch that asks
for another version than the stored one, and it gives a newer version to what an accepted patch
makes, unless the patch changes nothing. An object that is being deleted may go with its last
finalizer. This is all that is used of a server later on; what else it does, how it numbers its
versions and who else writes to it stays open.
-/

namespace ClusterLinks

variable {World : Type}

/-- What a server stores under a key, and the number of the last version that it gave out there. -/
structure Slot where
  object? : Option Json
  issued : Nat
  deriving DecidableEq

namespace Slot

/-- The cluster that a reader finds. -/
def cluster? (slot : Slot) : Option Cluster :=
  slot.object?.bind Cluster.read

/-- What is stored is filed under the key, with the last number. -/
def IsFiled (key : ObjectKey) (slot : Slot) : Prop :=
  ∀ document ∈ slot.object?, ApiServer.IsFiled key slot.issued document

instance (key : ObjectKey) (slot : Slot) : Decidable (slot.IsFiled key) :=
  inferInstanceAs (Decidable (∀ document ∈ slot.object?, _))

/-- Nothing was written, or what is there now has a newer number. -/
def Grows (key : ObjectKey) (before after : Slot) : Prop :=
  after = before ∨ before.issued < after.issued ∧ after.IsFiled key

instance (key : ObjectKey) (before after : Slot) : Decidable (Grows key before after) :=
  inferInstanceAs (Decidable (_ ∨ _))

/-- The stored document takes a patch. What is stored then holds what the patch makes, or nothing is
stored any more because the object lost its last finalizer. -/
structure Takes (key : ObjectKey) (patch : Json) (before after : Slot) (stored : Json) :
    Prop where
  found : before.object? = some stored
  accepted : ApiServer.accepts stored patch = true
  grows : Grows key before after
  outcome :
    (∀ merged, Cluster.read (stored.mergePatch patch) = some merged →
      ∃ cluster, after.cluster? = some cluster ∧ cluster.holdings = merged.holdings) ∨
    after.object? = none ∧ stored.LosesLastFinalizer (stored.mergePatch patch)

/-- The change of a scope is not empty, and it leaves the finalizers alone. So what takes it gets a
newer version that holds the change. -/
theorem Takes.of_between? {key : ObjectKey} {patch stored : Json} {before after : Slot}
    {loaded current : Cluster} (takes : before.Takes key patch after stored)
    (filed : before.IsFiled key) (isLoaded : before.cluster? = some loaded)
    (tidy : ∀ subnet ∈ current.subnets, subnet.IsTidy)
    (patched : Patch.between? loaded current = some patch) :
    before.issued < after.issued ∧ after.IsFiled key ∧
      ∃ cluster, after.cluster? = some cluster ∧
        cluster.holdings = (loaded.adopting current).holdings := by
  have storedReads : Cluster.read stored = some loaded := by
    rwa [Slot.cluster?, takes.found] at isLoaded
  have storedFiled := filed stored takes.found
  rcases storedFiled.exists_metadata with ⟨entries, -, rfl, -⟩
  obtain ⟨merged, mergedRead, mergedHolds⟩ :
      ∃ merged, Cluster.read ((Json.object entries).mergePatch patch) = some merged ∧
        merged.holdings = (loaded.adopting current).holdings :=
    Patch.read_merged_holdings storedFiled.ordered storedReads tidy patched
  rcases takes.outcome with holds | ⟨-, loses⟩
  · rcases holds merged mergedRead with ⟨cluster, found, holds⟩
    have holdsChange := holds.trans mergedHolds
    rcases takes.grows with same | ⟨newer, filedAfter⟩
    · -- What is still there as it was holds no change.
      rw [same, isLoaded] at found
      cases found
      have nothing : Patch.between? loaded current = none :=
        Patch.between?_eq_none_iff.mpr ⟨congrArg Cluster.Holdings.annotations holdsChange,
          congrArg Cluster.Holdings.subnets holdsChange⟩
      cases nothing.symm.trans patched
    · exact ⟨newer, filedAfter, cluster, found, holdsChange⟩
  · rcases (Json.losesLastFinalizer_iff storedReads mergedRead).mp loses with ⟨some, -, none⟩
    rw [mergedHolds] at none
    exact absurd none some

end Slot

/-- Either the request was not answered, or the answer is a refusal. -/
def IsRefusal (answer : Except Error Http.Reply) : Prop :=
  ∀ reply, answer = .ok reply → 400 ≤ reply.status ∧ reply.status < 600

namespace ApiConnection

variable {α : Type} {connection : ApiConnection World} {slot : World → Slot} {key : ObjectKey}
  {world : World}

/-- The server at the other end answers a reader with what it stores. -/
structure Answers (connection : ApiConnection World) (slot : World → Slot) (key : ObjectKey)
    (world : World) : Prop where
  reads : ∀ request, ApiRequest.get? .cluster key = some request →
    slot (connection.send request world).2 = slot world
  finds : ∀ request, ApiRequest.get? .cluster key = some request → ∀ cluster,
    (connection.send request world).1.bind (readReply Cluster.reader) = .ok cluster →
      (slot world).cluster? = some cluster
  misses : ∀ request, ApiRequest.get? .cluster key = some request → ∀ cause,
    (connection.send request world).1.bind (readReply Cluster.reader) =
        .error (.kubernetes cause) → cause.hasMissingCode = true → (slot world).object? = none

/-- It also refuses the operator's patches unless the stored document takes them. -/
structure Guards (connection : ApiConnection World) (slot : World → Slot) (key : ObjectKey)
    (world : World) : Prop extends Answers connection slot key world where
  patches : ∀ patch, Patch.IsSent patch → ∀ request,
    ApiRequest.mergePatch? .cluster key Conventions.fieldManager patch = some request →
      IsRefusal (connection.send request world).1 ∧
          slot (connection.send request world).2 = slot world ∨
        ∃ stored, (slot world).Takes key patch (slot (connection.send request world).2) stored

/-! ## What clients see -/

theorem ask_some (connection : ApiConnection World) (reader : Reader α) (request : ApiRequest)
    (world : World) :
    connection.ask reader (some request) world =
      ((connection.send request world).1.bind (readReply reader),
        (connection.send request world).2) := by
  simp only [ask, Action.ofOption, Action.bind_run, Action.pure_run]
  rcases connection.send request world with ⟨error | reply, after⟩ <;> rfl

theorem ask_none (connection : ApiConnection World) (reader : Reader α) (world : World) :
    connection.ask reader none world =
      (.error (.kubernetes (.failed "no request can be made for the object")), world) := rfl

theorem readReply_of_refusal {answer : Except Error Http.Reply} (refused : IsRefusal answer)
    (reader : Reader α) : ∃ error, answer.bind (readReply reader) = .error error := by
  cases answer with
  | error error => exact ⟨error, rfl⟩
  | ok reply => exact ⟨_, if_pos (refused reply rfl)⟩

/-- A reader changes nothing and sees what is there. -/
theorem Answers.get_run (answers : connection.Answers slot key world) :
    slot (connection.get Cluster.reader .cluster key world).2 = slot world ∧
      (∀ cluster, (connection.get Cluster.reader .cluster key world).1 = .ok cluster →
        (slot world).cluster? = some cluster) ∧
      ∀ cause, (connection.get Cluster.reader .cluster key world).1 =
          .error (.kubernetes cause) → cause.hasMissingCode = true →
        (slot world).object? = none := by
  rw [get]
  cases made : ApiRequest.get? .cluster key with
  | some request =>
      rw [ask_some]
      exact ⟨answers.reads request made, answers.finds request made, answers.misses request made⟩
  | none =>
      rw [ask_none]
      refine ⟨rfl, ?_, ?_⟩
      · intro cluster found
        cases found
      · intro cause failed missing
        cases failed
        cases missing

/-- A patch fails and changes nothing, or it is taken. What the answer holds is not looked at. -/
theorem Guards.mergePatch_run (guards : connection.Guards slot key world) {patch : Json}
    (isSent : Patch.IsSent patch) {sending : Action World Unit}
    (sends : sending = do
      let _ ← connection.mergePatch Cluster.reader .cluster key patch
      pure ()) :
    slot (sending world).2 = slot world ∧ (sending world).1 ≠ .ok () ∨
      ∃ stored, (slot world).Takes key patch (slot (sending world).2) stored := by
  subst sends
  rw [mergePatch, Action.bind_run]
  cases made : ApiRequest.mergePatch? .cluster key Conventions.fieldManager patch with
  | none =>
      rw [ask_none]
      exact .inl ⟨rfl, by rintro ⟨⟩⟩
  | some request =>
      rw [ask_some]
      rcases guards.patches patch isSent request made with ⟨refused, unchanged⟩ | ⟨stored, taken⟩
      · rcases readReply_of_refusal refused Cluster.reader with ⟨error, failed⟩
        rw [failed]
        exact .inl ⟨unchanged, by rintro ⟨⟩⟩
      · refine .inr ⟨stored, ?_⟩
        cases (connection.send request world).1.bind (readReply Cluster.reader) <;> exact taken

/-- An object that is looked for is the one that is there. -/
theorem Answers.find?_run (answers : connection.Answers slot key world) :
    slot (ClusterStore.find? connection key world).2 = slot world ∧
      (∀ cluster, (ClusterStore.find? connection key world).1 = .ok (some cluster) →
        (slot world).cluster? = some cluster) ∧
      ((ClusterStore.find? connection key world).1 = .ok none → (slot world).object? = none) := by
  rcases answers.get_run with ⟨unchanged, finds, misses⟩
  rw [ClusterStore.find?, find?, Action.bind_run, Action.attempt_run]
  cases answered : connection.get Cluster.reader .cluster key world with
  | mk result after =>
    rw [answered] at unchanged finds misses
    cases result with
    | ok cluster =>
        refine ⟨unchanged, ?_, ?_⟩
        · rintro found ⟨⟩
          exact finds cluster rfl
        · rintro ⟨⟩
    | error error =>
        cases error with
        | kubernetes cause =>
            cases missing : cause.hasMissingCode with
            | true =>
                simp only [missing, if_true, Action.pure_run]
                exact ⟨unchanged, by rintro _ ⟨⟩, fun _ => misses cause rfl missing⟩
            | false =>
                simp only [missing, Bool.false_eq_true, if_false, Action.fail_run]
                exact ⟨unchanged, by rintro _ ⟨⟩, by rintro ⟨⟩⟩
        | _ => exact ⟨unchanged, by rintro _ ⟨⟩, by rintro ⟨⟩⟩

/-! ## Scopes -/

/-- A scope that is loaded holds the cluster that is there. -/
theorem Answers.load_run (answers : connection.Answers slot key world) :
    slot (ClusterScope.load (.kubernetes connection) key world).2 = slot world ∧
      ∀ scope, (ClusterScope.load (.kubernetes connection) key world).1 = .ok (some scope) →
        (slot world).cluster? = some scope.loaded := by
  rcases answers.find?_run with ⟨unchanged, finds, -⟩
  rw [ClusterScope.load, Action.bind_run]
  change slot (ClusterStore.find? connection key world).2 = slot world at unchanged
  simp only [ClusterStore.kubernetes]
  cases found : ClusterStore.find? connection key world with
  | mk result after =>
    rw [found] at unchanged finds
    cases result with
    | error error => exact ⟨unchanged, by rintro _ ⟨⟩⟩
    | ok cluster? =>
        refine ⟨unchanged, ?_⟩
        intro scope loaded
        cases cluster? with
        | none => cases loaded
        | some cluster =>
            cases loaded
            exact finds cluster rfl

/-- Closing a scope changes nothing, and then it fails or there was nothing to send; or else the
object takes the difference. -/
theorem Guards.close_run (guards : connection.Guards slot key world) {scope : ClusterScope}
    (sameKey : scope.current.key = key) :
    slot (scope.close (.kubernetes connection) world).2 = slot world ∧
        ((scope.close (.kubernetes connection) world).1 = .ok () →
          Patch.between? scope.loaded scope.current = none) ∨
      ∃ patch stored, Patch.between? scope.loaded scope.current = some patch ∧
        (slot world).Takes key patch (slot (scope.close (.kubernetes connection) world).2)
          stored := by
  cases dirty : scope.isDirty with
  | false =>
      have same : scope.loaded = scope.current := by
        simpa [ClusterScope.isDirty] using dirty
      rw [ClusterScope.close, dirty]
      refine .inl ⟨rfl, fun _ => ?_⟩
      rw [same]
      exact Patch.between?_eq_none_iff.mpr ⟨rfl, rfl⟩
  | true =>
      have closed : scope.close (.kubernetes connection) =
          ClusterStore.sendChanges connection scope.loaded scope.current := by
        rw [ClusterScope.close, dirty, if_pos rfl]
        rfl
      rw [closed, ClusterStore.sendChanges, sameKey]
      cases patched : Patch.between? scope.loaded scope.current with
      | none => exact .inl ⟨rfl, fun _ => rfl⟩
      | some patch =>
          rcases guards.mergePatch_run (.inl ⟨_, _, patched⟩) rfl with
            ⟨unchanged, failed⟩ | ⟨stored, taken⟩
          · exact .inl ⟨unchanged, fun succeeded => absurd succeeded failed⟩
          · exact .inr ⟨patch, stored, rfl, taken⟩

end ApiConnection

/-! ## A server that does -/

namespace ApiServer

/-- What lies under a path, with the number that it bears. -/
def slotAt (path : String) (server : ApiServer) : Slot where
  object? := server.objects.get? path
  issued := ((server.objects.get? path).bind versionNumber?).getD 0

section Requests

variable {server : ApiServer} {request : ApiRequest} {stored : Json}

theorem send_of_absent (absent : server.objects.get? request.path = none) :
    connection.send request server =
      (.ok (refused 404 "NotFound" (request.path ++ " not found")), server) := by
  simp [connection, handle, absent]

theorem send_get {target : RequestTarget}
    (there : server.objects.get? target.path = some stored) :
    connection.send (.get target) server = (.ok (found stored), server) := by
  have atPath : server.objects.get? (ApiRequest.get target).path = some stored := there
  simp [connection, handle, atPath]

theorem send_mergePatch {target : RequestTarget} {patch : Json}
    (there : server.objects.get? target.path = some stored) :
    connection.send (.mergePatch target patch) server =
      if accepts stored patch then
        (.ok (found (patched stored patch)),
          ⟨server.objects.insert target.path (patched stored patch)⟩)
      else (.ok (refused 409 "Conflict" "the object has been modified"), server) := by
  have atPath : server.objects.get? (ApiRequest.mergePatch target patch).path = some stored :=
    there
  simp only [connection, handle, atPath, Action.step_run]
  split <;> rfl

theorem isRefusal_refused {code : Nat} (low : 400 ≤ code) (high : code < 600)
    (reason message : String) : IsRefusal (.ok (refused code reason message)) := by
  rintro reply ⟨⟩
  exact ⟨low, high⟩

/-- What is found is not reported as missing. -/
theorem readReply_found_ne_missing {cause : KubernetesError}
    (failed : ApiConnection.readReply Cluster.reader (found stored) = .error (.kubernetes cause)) :
    cause.hasMissingCode = false := by
  rw [ApiConnection.readReply, if_neg (by simp [found])] at failed
  split at failed
  · cases failed
  · cases failed
    rfl

theorem cluster_of_readReply_found {cluster : Cluster}
    (answered : ApiConnection.readReply Cluster.reader (found stored) = .ok cluster) :
    Cluster.read stored = some cluster := by
  rw [ApiConnection.readReply, if_neg (by simp [found])] at answered
  split at answered
  · next value isRead =>
      cases answered
      exact isRead
  · cases answered

/-- A patch that the server accepts is taken. -/
theorem takes_patched {path : String} {key : ObjectKey} {patch : Json}
    (there : server.objects.get? path = some stored)
    (filed : IsFiled key ((versionNumber? stored).getD 0) stored)
    (room : (versionNumber? stored).getD 0 < Decimal.max64)
    (isSent : Patch.IsSent patch) (accepted : accepts stored patch = true) :
    (slotAt path server).Takes key patch
      (slotAt path ⟨server.objects.insert path (patched stored patch)⟩) stored := by
  have mergedFiled := filed.mergePatch isSent.isModest accepted
  have nextFiled := mergedFiled.withNextVersion room
  have next : slotAt path ⟨server.objects.insert path (patched stored patch)⟩ =
      ⟨some (patched stored patch), (versionNumber? stored).getD 0 + 1⟩ := by
    have there : (server.objects.insert path (patched stored patch)).get? path =
        some (patched stored patch) := by simp [Dictionary.get?_insert]
    have numbered : versionNumber? (patched stored patch) =
        some ((versionNumber? stored).getD 0 + 1) := nextFiled.version
    simp [slotAt, there, numbered]
  rw [next]
  refine ⟨there, accepted, .inr ⟨?_, ?_⟩, .inl ?_⟩
  · simp [slotAt, there]
  · rintro document ⟨⟩
    exact nextFiled
  · intro merged mergedRead
    exact mergedFiled.read_withNextVersion room mergedRead

/-- The server answers a reader with what it stores. -/
theorem answers {path : String} {key : ObjectKey}
    (readPath : ∀ target ∈ ApiRequest.target? .cluster key "", target.path = path) :
    connection.Answers (slotAt path) key server := by
  cases there : server.objects.get? path with
  | none =>
      have sent (request : ApiRequest) (made : ApiRequest.get? .cluster key = some request) :
          connection.send request server =
            (.ok (refused 404 "NotFound" (request.path ++ " not found")), server) := by
        rcases Option.map_eq_some_iff.mp made with ⟨target, isTarget, rfl⟩
        have atPath : (ApiRequest.get target).path = path := readPath target isTarget
        exact send_of_absent (by rw [atPath, there])
      refine ⟨?_, ?_, ?_⟩
      · intro request made
        rw [sent request made]
      · intro request made cluster answered
        rw [sent request made] at answered
        cases answered
      · intro request made cause answered missing
        exact there
  | some stored =>
      have sent (request : ApiRequest) (made : ApiRequest.get? .cluster key = some request) :
          connection.send request server = (.ok (found stored), server) := by
        rcases Option.map_eq_some_iff.mp made with ⟨target, isTarget, rfl⟩
        exact send_get (by rw [readPath target isTarget, there])
      refine ⟨?_, ?_, ?_⟩
      · intro request made
        rw [sent request made]
      · intro request made cluster answered
        rw [sent request made] at answered
        simp only [Slot.cluster?, slotAt, there, Option.bind_some]
        exact cluster_of_readReply_found answered
      · intro request made cause answered missing
        rw [sent request made] at answered
        rw [readReply_found_ne_missing answered] at missing
        cases missing

/-- The server guards what it stores under a key, as long as there are numbers left. -/
theorem guards {path : String} {key : ObjectKey}
    (readPath : ∀ target ∈ ApiRequest.target? .cluster key "", target.path = path)
    (patchPath : ∀ target ∈ ApiRequest.target? .cluster key
      ("?&fieldManager=" ++ Conventions.fieldManager), target.path = path)
    (filed : (slotAt path server).IsFiled key)
    (room : (slotAt path server).issued < Decimal.max64) :
    connection.Guards (slotAt path) key server := by
  refine ⟨answers readPath, ?_⟩
  intro patch isSent request made
  rcases Option.map_eq_some_iff.mp made with ⟨target, isTarget, rfl⟩
  have samePath := patchPath target isTarget
  cases there : server.objects.get? path with
  | none =>
      have absent : server.objects.get? (ApiRequest.mergePatch target patch).path = none := by
        rw [ApiRequest.path, ApiRequest.target, samePath, there]
      rw [send_of_absent absent]
      exact .inl ⟨isRefusal_refused (by decide) (by decide) _ _, rfl⟩
  | some stored =>
      have number : (slotAt path server).issued = (versionNumber? stored).getD 0 := by
        simp [slotAt, there]
      have storedFiled := filed stored there
      rw [number] at storedFiled room
      rw [send_mergePatch (by rw [samePath, there]), samePath]
      by_cases accepted : accepts stored patch = true
      · rw [if_pos accepted]
        exact .inr ⟨stored, takes_patched there storedFiled room isSent accepted⟩
      · rw [if_neg accepted]
        exact .inl ⟨isRefusal_refused (by decide) (by decide) _ _, rfl⟩

end Requests

/-! ## A server with one cluster -/

namespace Sample

def hub : ObjectKey := ⟨"default", "hub"⟩

def path : String := ObjectKind.cluster.path hub

/-- The document of a cluster with one subnet. -/
def document (version : String) (annotations : Entries Json) (finalizers : List String) : Json :=
  .object
    [("metadata", .object
      [("annotations", .object annotations),
        ("finalizers", (Codec.list Codec.string).write finalizers), ("name", .string "hub"),
        ("namespace", .string "default"), ("resourceVersion", .string version)]),
      ("spec", .object
        [("networkSpec", .object [("subnets", .array [.object [("name", .string "nodes")]])])])]

/-- The server with this document, whatever it held before. -/
def storing (version : String) (annotations : Entries Json) (finalizers : List String)
    (server : ApiServer) : ApiServer :=
  server.put .cluster hub (document version annotations finalizers)

def server : ApiServer := storing "7" [] [] {}

theorem guards {server : ApiServer} (filed : (slotAt path server).IsFiled hub)
    (room : (slotAt path server).issued < Decimal.max64) :
    connection.Guards (slotAt path) hub server :=
  ApiServer.guards (by decide +kernel) (by decide +kernel) filed room

end Sample

end ApiServer

end ClusterLinks
