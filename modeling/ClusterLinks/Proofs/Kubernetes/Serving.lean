import ClusterLinks.Proofs.Kubernetes.Finalizers
import ClusterLinks.Proofs.Kubernetes.Names
import ClusterLinks.Proofs.Kubernetes.Storing
import Mathlib.Logic.Function.Basic

/-!
# Stores on servers

A server keeps documents by path. If nobody else writes to it, then every call of a store on it does
to the content of a cluster in a document what the call is meant to do. No patch is refused on the
way: each one asks for the version that is there. Only a cluster that is being deleted may go, and
only with its last finalizer.
-/

namespace ClusterLinks

variable {Server Rest : Type}

/-! ## Servers -/

/-- The answer holds a document. -/
def Http.Reply.Carries (reply : Http.Reply) (document : Json) : Prop :=
  reply.status = 200 ∧ reply.body.read? Cluster.reader = Cluster.read document

/-- The answer says that there is no such object. -/
def Http.Reply.SaysMissing (reply : Http.Reply) : Prop :=
  (400 ≤ reply.status ∧ reply.status < 600) ∧
    (ApiConnection.refusal reply).hasMissingCode = true

/-- The second document stores what the first one does, under some version. -/
def IsNextVersion (document next : Json) : Prop :=
  ∀ cluster, document.Stores cluster →
    ∃ version?, next.Stores { cluster with metadata.resourceVersion := version? }

/-- What is left under a path when a document is to take the place of the stored one: the document,
or nothing if the object loses its last finalizer. -/
inductive Json.Leaves (stored next : Json) : Option Json → Prop where
  | next : Leaves stored next (some next)
  | nothing (loses : stored.LosesLastFinalizer next) : Leaves stored next none

/-- What is known of a server: it says so if there is nothing under a path; it hands out what it
keeps; and it applies a patch of the operator that asks for no version or for the version that is
there. It may or may not give a new version to the outcome, and it may let an object go that loses
its last finalizer. What it does with other patches is left open. -/
structure ServesObjects (handle : ApiRequest → Server → Http.Reply × Server)
    (objects : Server → String → Option Json) : Prop where
  missing : ∀ target server, objects server target.path = none →
    (handle (.get target) server).1.SaysMissing ∧
      objects (handle (.get target) server).2 = objects server
  get : ∀ target server stored, objects server target.path = some stored →
    (handle (.get target) server).1.Carries stored ∧
      objects (handle (.get target) server).2 = objects server
  mergePatch : ∀ target patch server stored, Patch.IsSent patch →
    objects server target.path = some stored → ApiServer.accepts stored patch = true →
      ∃ next left?, IsNextVersion (stored.mergePatch patch) next ∧ stored.Leaves next left? ∧
        (handle (.mergePatch target patch) server).1.Carries next ∧
        objects (handle (.mergePatch target patch) server).2 =
          Function.update (objects server) target.path left?

/-- A world with a server, the answers that it gave to patches, and a rest. -/
structure Served (Server Rest : Type) where
  server : Server
  answers : List Http.Reply
  rest : Rest

/-- The document stores a cluster with the content of this one. -/
def Json.Keeps (document : Json) (cluster : Cluster) : Prop :=
  ∃ stored, document.Stores stored ∧ stored.content = cluster.content

section LastFinalizer

variable {stored next : Json} {left? : Option Json} {before after : Cluster}

/-- Nothing keeps a cluster that has lost its last finalizer. -/
theorem Json.LosesLastFinalizer.isReleased (loses : stored.LosesLastFinalizer next)
    (keeps : next.Keeps after) : after.IsReleased := by
  obtain ⟨-, -, cluster, reads, -, released⟩ := loses
  obtain ⟨cluster', stores, sameContent⟩ := keeps
  cases reads.symm.trans stores.reads
  rwa [← Cluster.eq_of_content_eq Cluster.IsReleased (fun _ => rfl) sameContent]

/-- An object that loses no finalizer, or not its last one, stays. -/
theorem Json.Leaves.eq_some (leaves : stored.Leaves next left?)
    (stays : ¬ stored.LosesLastFinalizer next) : left? = some next := by
  cases leaves with
  | next => rfl
  | nothing loses => exact absurd loses stays

theorem Json.not_losesLastFinalizer_of_same (reads : Cluster.read stored = some before)
    (keeps : next.Keeps after) (same : after.holdings.finalizers = before.holdings.finalizers) :
    ¬ stored.LosesLastFinalizer next := by
  intro loses
  have released := loses.isReleased keeps
  obtain ⟨cluster, reads', -, -, some, -⟩ := loses
  cases reads'.symm.trans reads
  exact some (same.symm.trans released.2)

end LastFinalizer

/-! ## Finalizers -/

namespace FinalizerChange

variable {finalizer : String} {cluster : Cluster}

/-- What the change does to a cluster. -/
def on (finalizer : String) : FinalizerChange → Cluster → Cluster
  | add => Cluster.addFinalizer finalizer
  | remove => Cluster.removeFinalizer finalizer

@[simp] theorem key_on (change : FinalizerChange) (finalizer : String) (cluster : Cluster) :
    (change.on finalizer cluster).key = cluster.key := by
  cases change <;> simp [on]

theorem content_on (change : FinalizerChange) (finalizer : String) (cluster : Cluster) :
    (change.on finalizer cluster).content = change.on finalizer cluster.content := by
  cases change with
  | add =>
      have sameCheck :
          cluster.content.hasFinalizer finalizer = cluster.hasFinalizer finalizer := rfl
      simp only [on, Cluster.addFinalizer, sameCheck]
      split <;> rfl
  | remove => rfl

/-- A cluster that was given a finalizer has one. -/
theorem not_isReleased_add (finalizer : String) (cluster : Cluster) :
    ¬ (add.on finalizer cluster).IsReleased := by
  intro released
  have has : (add.on finalizer cluster).holdings.finalizers.contains finalizer = true :=
    Cluster.hasFinalizer_addFinalizer finalizer cluster
  rw [released.2] at has
  cases has

theorem on_of_isDone (change : FinalizerChange)
    (done : change.isDone finalizer cluster.holdings.finalizers = true) :
    change.on finalizer cluster = cluster := by
  cases change with
  | add => exact Cluster.addFinalizer_of_hasFinalizer done
  | remove =>
      have same : cluster.metadata.finalizers.map (·.filter (· ≠ finalizer)) =
          cluster.metadata.finalizers := by
        have absent : finalizer ∉ cluster.metadata.finalizers.getD [] := by
          simpa [isDone, Cluster.holdings] using done
        cases listed : cluster.metadata.finalizers with
        | none => rfl
        | some names =>
            rw [listed] at absent
            refine congrArg some (List.filter_eq_self.mpr fun name member => ?_)
            exact decide_eq_true (ne_of_mem_of_not_mem member absent)
      exact congrArg cluster.withFinalizers same

theorem on_of_not_isDone (change : FinalizerChange)
    (notDone : ¬ change.isDone finalizer cluster.holdings.finalizers = true) :
    change.on finalizer cluster =
      cluster.withFinalizers (some (change.apply finalizer cluster.holdings.finalizers)) := by
  cases change with
  | add => exact if_neg notDone
  | remove =>
      have same : cluster.metadata.finalizers.map (·.filter (· ≠ finalizer)) =
          some (remove.apply finalizer cluster.holdings.finalizers) := by
        cases listed : cluster.metadata.finalizers with
        | none => simp [isDone, Cluster.holdings, listed] at notDone
        | some names => simp [apply, Cluster.holdings, listed]
      exact congrArg cluster.withFinalizers same

end FinalizerChange

/-! ## Connections -/

namespace Served

/-- A connection on which every request is answered. -/
def connection (handle : ApiRequest → Server → Http.Reply × Server) :
    ApiConnection (Served Server Rest) where
  send
    | .get target => fun served =>
        let (reply, server) := handle (.get target) served.server
        (.ok reply, { served with server })
    | .mergePatch target patch => fun served =>
        let (reply, server) := handle (.mergePatch target patch) served.server
        (.ok reply, { served with server, answers := served.answers ++ [reply] })

/-- Every patch was accepted. -/
def IsUntroubled (served : Served Server Rest) : Prop :=
  ∀ reply ∈ served.answers, reply.status = 200

/-- Requests have been made, these are the documents since then, and no patch was refused. -/
structure LeadsTo (objects : Server → String → Option Json) (documents : String → Option Json)
    (before after : Served Server Rest) : Prop where
  documents : objects after.server = documents
  rest : after.rest = before.rest
  untroubled : before.IsUntroubled → after.IsUntroubled

variable {handle : ApiRequest → Server → Http.Reply × Server}
variable {objects : Server → String → Option Json} {served : Served Server Rest}
variable {key : ObjectKey} {cluster merged : Cluster} {document patch : Json}

theorem LeadsTo.refl (objects : Server → String → Option Json) (served : Served Server Rest) :
    LeadsTo objects (objects served.server) served served :=
  ⟨rfl, rfl, id⟩

theorem LeadsTo.trans {documents documents' : String → Option Json}
    {first second third : Served Server Rest} (before : LeadsTo objects documents first second)
    (after : LeadsTo objects documents' second third) : LeadsTo objects documents' first third where
  documents := after.documents
  rest := after.rest.trans before.rest
  untroubled := after.untroubled ∘ before.untroubled

/-! ## Requests -/

/-- Reading a cluster takes one request. -/
theorem get_run (handle : ApiRequest → Server → Http.Reply × Server) (valid : key.IsValid)
    (served : Served Server Rest) :
    (connection handle).get Cluster.reader .cluster key served =
      (ApiConnection.readReply Cluster.reader (handle (.get key.readTarget) served.server).1,
        { served with server := (handle (.get key.readTarget) served.server).2 }) := by
  rw [ApiConnection.get, valid.get?, ApiConnection.ask_some]
  rfl

/-- So does changing it, and the answer is kept. -/
theorem mergePatch_run (handle : ApiRequest → Server → Http.Reply × Server) (valid : key.IsValid)
    (patch : Json) (served : Served Server Rest) :
    (connection handle).mergePatch Cluster.reader .cluster key patch served =
      let answer := handle (.mergePatch key.patchTarget patch) served.server
      (ApiConnection.readReply Cluster.reader answer.1,
        { served with server := answer.2, answers := served.answers ++ [answer.1] }) := by
  rw [ApiConnection.mergePatch, valid.mergePatch?, ApiConnection.ask_some]
  rfl

theorem readReply_of_carries {reply : Http.Reply} (carries : reply.Carries document)
    (stores : document.Stores cluster) :
    ApiConnection.readReply Cluster.reader reply = .ok cluster := by
  unfold ApiConnection.readReply
  rw [if_neg (by simp [carries.1]), carries.2, stores.reads]

/-- What is there is read. -/
theorem get_of_stores (serves : ServesObjects handle objects) (valid : key.IsValid)
    (there : objects served.server (ObjectKind.cluster.path key) = some document)
    (stores : document.Stores cluster) :
    ∃ after, (connection handle).get Cluster.reader .cluster key served = (.ok cluster, after) ∧
      LeadsTo objects (objects served.server) served after := by
  obtain ⟨carries, unchanged⟩ := serves.get key.readTarget served.server document there
  have run := get_run handle valid served
  rw [readReply_of_carries carries stores] at run
  exact ⟨_, run, unchanged, rfl, id⟩

/-- What is there is found. -/
theorem find?_of_stores (serves : ServesObjects handle objects) (valid : key.IsValid)
    (there : objects served.server (ObjectKind.cluster.path key) = some document)
    (stores : document.Stores cluster) :
    ∃ after, ClusterStore.find? (connection handle) key served = (.ok (some cluster), after) ∧
      LeadsTo objects (objects served.server) served after := by
  obtain ⟨after, run, leads⟩ := get_of_stores serves valid there stores
  refine ⟨after, ?_, leads⟩
  rw [ClusterStore.find?, ApiConnection.find?, Action.bind_run, Action.attempt_run, run]
  rfl

/-- The server can be asked for a cluster, and there is nothing where it is asked for. -/
def IsGone (objects : Server → String → Option Json) (server : Server) (key : ObjectKey) : Prop :=
  ∃ target, ApiRequest.get? .cluster key = some (.get target) ∧ objects server target.path = none

theorem isGone_of_absent {server : Server} (valid : key.IsValid)
    (absent : objects server (ObjectKind.cluster.path key) = none) : IsGone objects server key :=
  ⟨key.readTarget, valid.get?, absent⟩

/-- What is gone cannot be read, and the failure says why. -/
theorem get_of_isGone (serves : ServesObjects handle objects)
    (gone : IsGone objects served.server key) :
    ∃ cause server', cause.hasMissingCode = true ∧ objects server' = objects served.server ∧
      (connection handle).get Cluster.reader .cluster key served =
        (.error (.kubernetes cause), { served with server := server' }) := by
  obtain ⟨target, asks, absent⟩ := gone
  obtain ⟨⟨refused, missing⟩, unchanged⟩ := serves.missing target served.server absent
  refine ⟨_, (handle (.get target) served.server).2, missing, unchanged, ?_⟩
  rw [ApiConnection.get, asks, ApiConnection.ask_some]
  change (ApiConnection.readReply Cluster.reader (handle (.get target) served.server).1, _) = _
  rw [ApiConnection.readReply, if_pos refused]
  rfl

theorem find?_of_isGone (serves : ServesObjects handle objects)
    (gone : IsGone objects served.server key) :
    ∃ server', objects server' = objects served.server ∧
      ClusterStore.find? (connection handle) key served =
        (.ok none, { served with server := server' }) := by
  obtain ⟨cause, server', missing, unchanged, reads⟩ := get_of_isGone serves gone
  refine ⟨server', unchanged, ?_⟩
  rw [ClusterStore.find?, ApiConnection.find?, Action.bind_run, Action.attempt_run, reads]
  simp only [missing, if_true]
  rfl

/-- What is not there is not found. -/
theorem find?_of_absent (serves : ServesObjects handle objects) (valid : key.IsValid)
    (absent : objects served.server (ObjectKind.cluster.path key) = none) :
    ∃ after, ClusterStore.find? (connection handle) key served = (.ok none, after) ∧
      LeadsTo objects (objects served.server) served after := by
  obtain ⟨server', unchanged, finds⟩ := find?_of_isGone serves (isGone_of_absent valid absent)
  exact ⟨_, finds, unchanged, rfl, id⟩

/-- A patch that is accepted makes the next document. What the answer holds is not looked at. -/
theorem patch_of_accepts (serves : ServesObjects handle objects) (valid : key.IsValid)
    (there : objects served.server (ObjectKind.cluster.path key) = some document)
    (isSent : Patch.IsSent patch) (accepted : ApiServer.accepts document patch = true)
    (merges : (document.mergePatch patch).Stores merged)
    {sending : Action (Served Server Rest) Unit}
    (sends : sending = do
      let _ ← (connection handle).mergePatch Cluster.reader .cluster key patch
      pure ()) :
    ∃ next left? after, sending served = (.ok (), after) ∧ next.Keeps merged ∧
      document.Leaves next left? ∧
      LeadsTo objects (Function.update (objects served.server) (ObjectKind.cluster.path key) left?)
        served after := by
  subst sends
  obtain ⟨next, left?, isNext, leaves, carries, updated⟩ :=
    serves.mergePatch key.patchTarget patch served.server document isSent there accepted
  obtain ⟨version?, stores⟩ := isNext merged merges
  have run := mergePatch_run handle valid patch served
  dsimp only at run
  rw [readReply_of_carries carries stores] at run
  refine ⟨next, left?, _, Action.bind_of_ok run _, ⟨_, stores, rfl⟩, leaves, updated, rfl, ?_⟩
  intro untroubled reply member
  obtain before | added := List.mem_append.mp member
  · exact untroubled reply before
  · rw [List.mem_singleton.mp added]
    exact carries.1

/-! ## Calls -/

/-- A document that is there is as good as one that was put there. -/
theorem LeadsTo.of_unchanged {path : String} {before after : Served Server Rest}
    (there : objects before.server path = some document)
    (leads : LeadsTo objects (objects before.server) before after) :
    LeadsTo objects (Function.update (objects before.server) path (some document)) before
      after := by
  rw [← there, Function.update_eq_self]
  exact leads

/-- A change of finalizers leaves the cluster with the change, as long as there is a cluster. -/
theorem call_of_stores (serves : ServesObjects handle objects) (valid : key.IsValid)
    (there : objects served.server (ObjectKind.cluster.path key) = some document)
    (stores : document.Stores cluster) (change : FinalizerChange) (finalizer : String) :
    ∃ next left? after,
      change.call (.kubernetes (connection handle)) key finalizer served = (.ok (), after) ∧
      next.Keeps (change.on finalizer cluster) ∧ document.Leaves next left? ∧
      LeadsTo objects (Function.update (objects served.server) (ObjectKind.cluster.path key) left?)
        served after := by
  obtain ⟨read, reads, leads⟩ := get_of_stores serves valid there stores
  have run := change.call_of_get finalizer reads
  split at run
  · next done =>
      refine ⟨document, some document, read, run, ⟨cluster, stores, ?_⟩, .next,
        .of_unchanged there leads⟩
      rw [change.on_of_isDone done]
  · next notDone =>
      obtain ⟨accepted, merges⟩ := Patch.stores_of_finalizers stores
        (change.apply finalizer cluster.holdings.finalizers)
      rw [← leads.documents] at there
      obtain ⟨next, left?, after, sent, keeps, leaves, leads'⟩ :=
        patch_of_accepts serves valid there (.inr ⟨_, rfl⟩) accepted merges rfl
      rw [← change.on_of_not_isDone notDone] at keeps
      rw [leads.documents] at leads'
      exact ⟨next, left?, after, run.trans sent, keeps, leaves, leads.trans leads'⟩

/-- Closing a scope whose cluster is there as it was loaded leaves the content that the cluster has
now. -/
theorem close_of_stores (serves : ServesObjects handle objects) {scope : ClusterScope}
    (valid : scope.loaded.key.IsValid)
    (there : objects served.server (ObjectKind.cluster.path scope.loaded.key) = some document)
    (stores : document.Stores scope.loaded) (sameCore : scope.current.core = scope.loaded.core)
    (tidy : scope.current.IsTidy) :
    ∃ next after, scope.close (.kubernetes (connection handle)) served = (.ok (), after) ∧
      next.Keeps scope.current ∧
      LeadsTo objects
        (Function.update (objects served.server) (ObjectKind.cluster.path scope.loaded.key)
          (some next))
        served after := by
  have unchanged := LeadsTo.of_unchanged there (.refl objects served)
  unfold ClusterScope.close
  split
  · change ∃ next after, ClusterStore.sendChanges (connection handle) _ _ _ = _ ∧ _
    unfold ClusterStore.sendChanges
    rw [Cluster.key_of_core_eq sameCore]
    cases patched : Patch.between? scope.loaded scope.current with
    | none =>
        have sameContent := Patch.content_of_between?_eq_none sameCore patched
        exact ⟨document, served, rfl, ⟨_, stores, sameContent.symm⟩, unchanged⟩
    | some patch =>
        obtain ⟨accepted, merged, merges, sameContent⟩ :=
          Patch.stores_of_between? stores sameCore tidy patched
        obtain ⟨next, left?, after, sent, ⟨stored, storesNext, kept⟩, leaves, leads⟩ :=
          patch_of_accepts serves valid there (.inl ⟨_, _, patched⟩) accepted merges rfl
        have keeps : next.Keeps scope.current := ⟨stored, storesNext, kept.trans sameContent⟩
        -- The patch leaves the finalizers alone, so none of them was the last one.
        have sameFinalizers :
            scope.current.holdings.finalizers = scope.loaded.holdings.finalizers :=
          Cluster.eq_of_core_eq (·.holdings.finalizers) (fun _ => rfl) sameCore
        have stays : left? = some next :=
          leaves.eq_some (Json.not_losesLastFinalizer_of_same stores.reads keeps sameFinalizers)
        subst stays
        exact ⟨next, after, sent, keeps, leads⟩
  · next clean =>
      have same : scope.loaded = scope.current := by simpa [ClusterScope.isDirty] using clean
      exact ⟨document, served, rfl, ⟨_, stores, congrArg Cluster.content same⟩, unchanged⟩

end Served

/-! ## A server that does -/

/-- Metadata with the next version say the same beside it. -/
theorem Metadata.read_insert_nextVersion {entries : Entries Json} {metadata : Metadata}
    {version : Json} (reads : read (.object entries) = some metadata)
    (found : entries.get? "resourceVersion" = some version) :
    ∃ version?, read (.object (entries.insert "resourceVersion" (ApiServer.nextVersion version))) =
      some { metadata with resourceVersion := version? } := by
  obtain ⟨-, -, annotationsRead, finalizersRead, versionRead⟩ := of?_of_read reads
  obtain ⟨unset, -⟩ | ⟨document, there, -, text, textRead, -⟩ :=
    (Field.of?_optional_eq_some_iff _).mp versionRead
  · rw [found, Option.getD_some] at unset
    subst unset
    refine ⟨none, read_of_changed reads ?_ ?_ ?_ ?_⟩
    · intro name foreign
      exact Entries.get?_insert_of_ne _ _ (by rintro rfl; simp at foreign)
    · exact (Field.of?_insert_of_ne _ (by decide)).trans annotationsRead
    · exact (Field.of?_insert_of_ne _ (by decide)).trans finalizersRead
    · refine (Field.of?_optional_eq_some_iff _).mpr (.inl ⟨?_, rfl⟩)
      rw [Entries.get?_insert_self]
      rfl
  · cases found.symm.trans there
    have isText : ∃ next, ApiServer.nextVersion version = .string next := by
      cases version <;> cases textRead
      simp only [ApiServer.nextVersion]
      cases Decimal.unsigned? Decimal.max64 text with
      | some number => exact ⟨_, rfl⟩
      | none => exact ⟨_, rfl⟩
    obtain ⟨next, isNext⟩ := isText
    rw [isNext]
    exact ⟨_, read_insert_version reads next⟩

namespace ApiServer

theorem isNextVersion_withNextVersion (document : Json) :
    IsNextVersion document (withNextVersion document) := by
  intro cluster stores
  obtain ⟨entries, metadata, rfl, found, metadataRead, ordered⟩ := stores.exists_metadata
  have versionAt : version? (.object entries) = metadata.get? "resourceVersion" := by
    simp only [version?, Json.get?_object, found, Option.bind_some]
  cases versionFound : metadata.get? "resourceVersion" with
  | none =>
      have same : withNextVersion (.object entries) = .object entries := by
        simp only [withNextVersion, versionAt, versionFound]
      rw [same]
      exact ⟨cluster.metadata.resourceVersion, stores⟩
  | some version =>
      obtain ⟨version?, read⟩ := Metadata.read_insert_nextVersion metadataRead versionFound
      have next : withNextVersion (.object entries) = .object (entries.insert "metadata"
          (.object (metadata.insert "resourceVersion" (nextVersion version)))) := by
        simp only [withNextVersion, versionAt, versionFound, Json.entries?, Json.get?_object, found,
          Option.bind_some]
      rw [next]
      refine ⟨version?, ⟨_, rfl⟩, Cluster.read_insert_metadata stores.reads read, ?_⟩
      rw [Json.entries?, Option.getD_some, Json.under_of_get? (Entries.get?_insert_self _ _ _),
        Json.under_congr (Entries.get?_insert_of_ne _ _ (by decide))]
      exact ordered

/-- The server keeps what it is given, says what it has, and gives a version to what it changes. -/
theorem servesObjects : ServesObjects handle fun server path => server.objects.get? path where
  missing target server absent := by
    have atPath : server.objects.get? (ApiRequest.get target).path = none := absent
    simp only [handle, atPath]
    exact ⟨⟨⟨by simp [refused], by simp [refused]⟩, rfl⟩, trivial⟩
  get target server stored there := by
    have atPath : server.objects.get? (ApiRequest.get target).path = some stored := there
    simp only [handle, atPath]
    exact ⟨⟨rfl, rfl⟩, trivial⟩
  mergePatch target patch server stored _ there accepted := by
    have atPath : server.objects.get? (ApiRequest.mergePatch target patch).path = some stored :=
      there
    simp only [handle, atPath, accepted, if_true]
    refine ⟨patched stored patch, _, isNextVersion_withNextVersion _, .next, ⟨rfl, rfl⟩, ?_⟩
    funext path
    rw [Dictionary.get?_insert, Function.update_apply]

/-- Answers a request as `handle` does, but lets an object go that loses its last finalizer. -/
def handleReleasing (request : ApiRequest) (server : ApiServer) : Http.Reply × ApiServer :=
  match request, server.objects.get? request.path with
  | .mergePatch target patch, some stored =>
      if accepts stored patch ∧ stored.LosesLastFinalizer (patched stored patch) then
        (found (patched stored patch), ⟨server.objects.erase target.path⟩)
      else handle request server
  | request, _ => handle request server

theorem servesObjects_releasing :
    ServesObjects handleReleasing fun server path => server.objects.get? path where
  missing target server absent := servesObjects.missing target server absent
  get target server stored there := servesObjects.get target server stored there
  mergePatch target patch server stored isSent there accepted := by
    have atPath : server.objects.get? (ApiRequest.mergePatch target patch).path = some stored :=
      there
    by_cases loses : stored.LosesLastFinalizer (patched stored patch)
    · simp only [handleReleasing, atPath, accepted, loses, and_self, if_true]
      refine ⟨_, none, isNextVersion_withNextVersion _, .nothing loses, ⟨rfl, rfl⟩, ?_⟩
      funext path
      rw [Dictionary.get?_erase, Function.update_apply]
    · simp only [handleReleasing, atPath, loses, and_false, if_false]
      exact servesObjects.mergePatch target patch server stored isSent there accepted

end ApiServer

end ClusterLinks
