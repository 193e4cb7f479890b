import ClusterLinks.Proofs.Action.Agreement
import ClusterLinks.Proofs.Kubernetes.Serving

/-!
# A server beside a shelf

A server that keeps clusters in documents and a shelf that keeps clusters as they are correspond if
the contents are the same. Every call of a store that is made on both sides comes to the same and
leaves them so. The one difference is that the server may let a cluster go that is being deleted and
has no finalizers any more, while the shelf keeps it.
-/

namespace ClusterLinks

variable {Server Rest : Type}

/-! ## What is kept -/

/-- Every document under the path of a cluster can be read, and the cluster has the key that leads
to the path. -/
def AreReadable (documents : String → Option Json) : Prop :=
  ∀ key : ObjectKey, key.IsValid → ∀ document,
    documents (ObjectKind.cluster.path key) = some document →
      ∃ cluster, document.Stores cluster ∧ cluster.key = key

/-- A cluster that is put under its own path can be read. -/
theorem AreReadable.update {documents : String → Option Json} (readable : AreReadable documents)
    {document : Json} {cluster : Cluster} (valid : cluster.key.IsValid)
    (stores : document.Stores cluster) :
    AreReadable
      (Function.update documents (ObjectKind.cluster.path cluster.key) (some document)) := by
  intro key valid' document' there
  by_cases same : ObjectKind.cluster.path key = ObjectKind.cluster.path cluster.key
  · rw [same, Function.update_self] at there
    cases there
    exact ⟨cluster, stores, valid.clusterPath_inj valid' same.symm⟩
  · rw [Function.update_of_ne same] at there
    exact readable key valid' document' there

namespace Shelf

variable {documents : String → Option Json} {shelf : Shelf} {key : ObjectKey} {cluster : Cluster}
variable {document : Json}

/-- Under every key that Kubernetes allows there is a document with the content of the cluster on
the shelf, or there is nothing on either side. -/
def IsKeptIn (documents : String → Option Json) (shelf : Shelf) : Prop :=
  ∀ key : ObjectKey, key.IsValid →
    Option.Rel Json.Keeps (documents (ObjectKind.cluster.path key)) (shelf.get? key)

/-- A change under one key leaves the others alone on both sides. -/
theorem IsKeptIn.elsewhere {other : ObjectKey} (kept : shelf.IsKeptIn documents)
    (valid : key.IsValid) (keyed : cluster.key = key) (valid' : other.IsValid)
    (apart : key ≠ other) (document? : Option Json) :
    Option.Rel Json.Keeps
      (Function.update documents (ObjectKind.cluster.path key) document?
        (ObjectKind.cluster.path other))
      ((shelf.put cluster).get? other) := by
  have pathsApart : ObjectKind.cluster.path other ≠ ObjectKind.cluster.path key :=
    fun samePath => apart (valid.clusterPath_inj valid' samePath.symm)
  rw [Function.update_of_ne pathsApart, get?_put_of_ne shelf (keyed.trans_ne apart)]
  exact kept other valid'

/-- The same is put on both sides. -/
theorem IsKeptIn.put (kept : shelf.IsKeptIn documents) (valid : key.IsValid)
    (keyed : cluster.key = key) (keeps : document.Keeps cluster) :
    (shelf.put cluster).IsKeptIn
      (Function.update documents (ObjectKind.cluster.path key) (some document)) := by
  intro other valid'
  by_cases same : key = other
  · subst same
    rw [Function.update_self, get?_put_self shelf keyed]
    exact .some keeps
  · exact kept.elsewhere valid keyed valid' same (some document)

/-- As `IsKeptIn`, but the server may have let the cluster under one key go if nothing kept it. -/
def IsKeptUnlessReleased (documents : String → Option Json) (key : ObjectKey) (shelf : Shelf) :
    Prop :=
  ∀ other : ObjectKey, other.IsValid →
    Option.Rel Json.Keeps (documents (ObjectKind.cluster.path other)) (shelf.get? other) ∨
      other = key ∧ documents (ObjectKind.cluster.path other) = none ∧
        ∃ cluster, shelf.get? other = some cluster ∧ cluster.IsReleased

theorem IsKeptIn.unlessReleased (kept : shelf.IsKeptIn documents) (key : ObjectKey) :
    shelf.IsKeptUnlessReleased documents key :=
  fun other valid => .inl (kept other valid)

/-- Where the document under the key is still there, everything is kept. -/
theorem IsKeptUnlessReleased.isKeptIn (kept : shelf.IsKeptUnlessReleased documents key)
    (there : documents (ObjectKind.cluster.path key) ≠ none) : shelf.IsKeptIn documents := by
  intro other valid
  obtain related | ⟨rfl, gone, -⟩ := kept other valid
  · exact related
  · exact absurd gone there

/-- What is put on the shelf while the server leaves what is left of the next document. -/
theorem IsKeptIn.put_unlessReleased {stored next : Json} {left? : Option Json}
    (kept : shelf.IsKeptIn documents) (valid : key.IsValid) (keyed : cluster.key = key)
    (keeps : next.Keeps cluster) (leaves : stored.Leaves next left?) :
    (shelf.put cluster).IsKeptUnlessReleased
      (Function.update documents (ObjectKind.cluster.path key) left?) key := by
  cases leaves with
  | next => exact (kept.put valid keyed keeps).unlessReleased key
  | nothing loses =>
      intro other valid'
      by_cases same : key = other
      · subst same
        exact .inr ⟨rfl, Function.update_self .., cluster, get?_put_self shelf keyed,
          loses.isReleased keeps⟩
      · exact .inl (kept.elsewhere valid keyed valid' same none)

/-- Who has read a document knows the content of what is on the shelf. -/
theorem IsKeptIn.exists_of_stores {stored : Cluster} (kept : shelf.IsKeptIn documents)
    (valid : key.IsValid) (there : documents (ObjectKind.cluster.path key) = some document)
    (stores : document.Stores stored) :
    ∃ cluster, shelf.get? key = some cluster ∧ stored.content = cluster.content := by
  have related := kept key valid
  rw [there] at related
  generalize found : shelf.get? key = cluster? at related
  cases related with
  | some keeps =>
      obtain ⟨stored', stores', sameContent⟩ := keeps
      have same : some stored' = some stored := stores'.reads.symm.trans stores.reads
      cases same
      exact ⟨_, rfl, sameContent⟩

/-- The shelf of the clusters that are read from documents. -/
def ofDocuments (documents : String → Option Json) : Shelf where
  get? key :=
    if key.IsValid then
      ((documents (ObjectKind.cluster.path key)).bind Cluster.read).filter (·.key = key)
    else none
  keyed {key cluster} found := by
    split at found
    · exact of_decide_eq_true (Option.filter_eq_some_iff.mp found).2
    · cases found

/-- If the documents can be read, then the shelf of their clusters is kept in them. -/
theorem isKeptIn_ofDocuments (readable : AreReadable documents) :
    (ofDocuments documents).IsKeptIn documents := by
  intro key valid
  simp only [ofDocuments, valid, if_true]
  cases there : documents (ObjectKind.cluster.path key) with
  | none => exact .none
  | some document =>
      obtain ⟨cluster, stores, keyed⟩ := readable key valid document there
      simp only [Option.bind_some, stores.reads, Option.filter_some, keyed, decide_true, if_true]
      exact .some ⟨cluster, stores, rfl⟩

end Shelf

/-! ## Two worlds -/

/-- A world with a shelf and a rest. -/
structure Shelved (Rest : Type) where
  shelf : Shelf
  rest : Rest

/-- The store that is the shelf of the world. -/
def Shelved.store : ClusterStore (Shelved Rest) :=
  Shelf.store.within (·.shelf) fun shelf shelved => { shelved with shelf }

/-- The documents on the server and the clusters on the shelf have the same contents, the rest is
the same, and no patch was refused so far. Something more may be held of the documents. -/
structure Corresponds (objects : Server → String → Option Json)
    (held : (String → Option Json) → Prop) (served : Served Server Rest) (shelved : Shelved Rest) :
    Prop where
  kept : shelved.shelf.IsKeptIn (objects served.server)
  rest : served.rest = shelved.rest
  untroubled : served.IsUntroubled
  held : held (objects served.server)

/-- As `Corresponds`, but the server may have let the cluster under one key go if nothing kept
it. -/
structure CorrespondsUnlessReleased (objects : Server → String → Option Json) (key : ObjectKey)
    (served : Served Server Rest) (shelved : Shelved Rest) : Prop where
  kept : shelved.shelf.IsKeptUnlessReleased (objects served.server) key
  rest : served.rest = shelved.rest
  untroubled : served.IsUntroubled

namespace Corresponds

variable {objects : Server → String → Option Json} {held held' : (String → Option Json) → Prop}
variable {served served' : Served Server Rest} {shelved : Shelved Rest}

theorem imp (corresponds : Corresponds objects held served shelved)
    (holds : held (objects served.server) → held' (objects served.server)) :
    Corresponds objects held' served shelved :=
  ⟨corresponds.kept, corresponds.rest, corresponds.untroubled, holds corresponds.held⟩

theorem forget (corresponds : Corresponds objects held served shelved) :
    Corresponds objects (fun _ => True) served shelved :=
  corresponds.imp fun _ => trivial

theorem unlessReleased (corresponds : Corresponds objects held served shelved) (key : ObjectKey) :
    CorrespondsUnlessReleased objects key served shelved :=
  ⟨corresponds.kept.unlessReleased key, corresponds.rest, corresponds.untroubled⟩

/-- Requests that change no document go unnoticed. -/
theorem of_unchanged (corresponds : Corresponds objects held served shelved)
    (leads : Served.LeadsTo objects (objects served.server) served served') :
    Corresponds objects held served' shelved where
  kept := leads.documents ▸ corresponds.kept
  rest := leads.rest.trans corresponds.rest
  untroubled := leads.untroubled corresponds.untroubled
  held := leads.documents ▸ corresponds.held

/-- One document is changed on one side, and one cluster on the other. -/
theorem of_changed {key : ObjectKey} {cluster : Cluster} {document : Json}
    (corresponds : Corresponds objects held served shelved)
    (leads : Served.LeadsTo objects
      (Function.update (objects served.server) (ObjectKind.cluster.path key) (some document))
      served served')
    (valid : key.IsValid) (keyed : cluster.key = key) (keeps : document.Keeps cluster)
    (holds : held
      (Function.update (objects served.server) (ObjectKind.cluster.path key) (some document))) :
    Corresponds objects held served' { shelved with shelf := shelved.shelf.put cluster } where
  kept := leads.documents ▸ corresponds.kept.put valid keyed keeps
  rest := leads.rest.trans corresponds.rest
  untroubled := leads.untroubled corresponds.untroubled
  held := leads.documents ▸ holds

end Corresponds

/-! ## Calls on both sides -/

/-- A cluster was loaded on both sides, and what became of it has the same content on both. -/
structure AreTwins (documents : String → Option Json) (scope scope' : ClusterScope) : Prop where
  valid : scope.loaded.key.IsValid
  stored : ∃ document, documents (ObjectKind.cluster.path scope.loaded.key) = some document ∧
    document.Stores scope.loaded
  loaded : scope.loaded.content = scope'.loaded.content
  current : scope.current.content = scope'.current.content
  core : scope.current.core = scope.loaded.core
  tidy : scope.current.IsTidy

namespace AreTwins

variable {documents : String → Option Json} {scope scope' : ClusterScope}

/-- Work on the clusters that changes the same on both sides leaves twins. -/
theorem work {scope₁ scope₁' : ClusterScope} (twins : AreTwins documents scope scope')
    (loaded : scope₁.loaded = scope.loaded) (loaded' : scope₁'.loaded = scope'.loaded)
    (core : scope₁.current.core = scope.current.core) (tidy : scope₁.current.IsTidy)
    (current : scope₁.current.content = scope₁'.current.content) :
    AreTwins documents scope₁ scope₁' where
  valid := loaded ▸ twins.valid
  stored := loaded ▸ twins.stored
  loaded := by rw [loaded, loaded', twins.loaded]
  current := current
  core := by rw [core, twins.core, loaded]
  tidy := tidy

/-- A change under another key leaves twins alone. -/
theorem update (twins : AreTwins documents scope scope') {key : ObjectKey} (valid : key.IsValid)
    (apart : scope.loaded.key ≠ key) (document? : Option Json) :
    AreTwins (Function.update documents (ObjectKind.cluster.path key) document?) scope scope' where
  valid := twins.valid
  stored := by
    have elsewhere : ObjectKind.cluster.path scope.loaded.key ≠ ObjectKind.cluster.path key :=
      fun samePath => apart (twins.valid.clusterPath_inj valid samePath)
    rw [Function.update_of_ne elsewhere]
    exact twins.stored
  loaded := twins.loaded
  current := twins.current
  core := twins.core
  tidy := twins.tidy

end AreTwins

/-- Closing a scope on a shelf with the content that was loaded leaves the content that there is
now. -/
theorem Shelved.close_of_content {shelved : Shelved Rest} {scope : ClusterScope} {key : ObjectKey}
    {cluster : Cluster} (found : shelved.shelf.get? key = some cluster)
    (sameContent : cluster.content = scope.loaded.content) :
    ∃ kept, scope.close Shelved.store shelved =
        (.ok (), { shelved with shelf := shelved.shelf.put kept }) ∧
      kept.content = scope.current.content := by
  unfold ClusterScope.close
  split
  · exact ⟨scope.current, rfl, rfl⟩
  · next clean =>
      have same : scope.loaded = scope.current := by simpa [ClusterScope.isDirty] using clean
      refine ⟨cluster, ?_, sameContent.trans (congrArg Cluster.content same)⟩
      rw [Shelf.put_of_get? found]
      rfl

namespace Served

variable {handle : ApiRequest → Server → Http.Reply × Server}
variable {objects : Server → String → Option Json} {held : (String → Option Json) → Prop}
variable {failing : Served Server Rest → Shelved Rest → Prop}
variable {key : ObjectKey} {scope scope' : ClusterScope}
variable (serves : ServesObjects handle objects)

include serves

/-- A cluster is found on both sides or on neither. -/
theorem find?_agrees (valid : key.IsValid) :
    (ClusterStore.find? (connection handle) key).Agrees (Shelved.store.get key)
      (Corresponds objects held) failing fun stored? cluster? =>
        Corresponds objects fun documents => held documents ∧
          Option.Rel
            (fun stored cluster => stored.key = key ∧ stored.content = cluster.content ∧
              ∃ document, documents (ObjectKind.cluster.path key) = some document ∧
                document.Stores stored)
            stored? cluster? := by
  intro served shelved corresponds
  have related := corresponds.kept key valid
  have shelvedRun : Shelved.store.get key shelved = (.ok (shelved.shelf.get? key), shelved) := rfl
  generalize there : objects served.server (ObjectKind.cluster.path key) = document? at related
  generalize found : shelved.shelf.get? key = cluster? at related shelvedRun
  rw [shelvedRun]
  cases related with
  | none =>
      obtain ⟨after, run, leads⟩ := find?_of_absent serves valid there
      rw [run]
      exact .ok ((corresponds.of_unchanged leads).imp fun holds => ⟨holds, .none⟩)
  | some keeps =>
      obtain ⟨stored, stores, sameContent⟩ := keeps
      obtain ⟨after, run, leads⟩ := find?_of_stores serves valid there stores
      have sameKey : stored.key = _ :=
        Cluster.eq_of_content_eq Cluster.key Cluster.key_content sameContent
      have stillThere := (congrFun leads.documents _).trans there
      rw [run]
      exact .ok ((corresponds.of_unchanged leads).imp fun holds =>
        ⟨holds, .some ⟨sameKey.trans (shelved.shelf.keyed found), sameContent, _, stillThere,
          stores⟩⟩)

/-- A cluster is loaded on both sides or on neither. -/
theorem load_agrees (valid : key.IsValid) :
    (ClusterScope.load (.kubernetes (connection handle)) key).Agrees
      (ClusterScope.load Shelved.store key) (Corresponds objects held) failing
      fun scope? scope'? =>
        Corresponds objects fun documents => held documents ∧
          Option.Rel (fun scope scope' => scope.loaded.key = key ∧ AreTwins documents scope scope')
            scope? scope'? := by
  refine (find?_agrees serves valid).bind fun stored? cluster? => .pure ?_
  intro served shelved corresponds
  refine corresponds.imp fun holds => ⟨holds.1, ?_⟩
  obtain ⟨-, related⟩ := holds
  cases related with
  | none => exact .none
  | some loaded =>
      obtain ⟨rfl, sameContent, document, there, stores⟩ := loaded
      exact .some ⟨rfl, valid, ⟨document, there, stores⟩, sameContent, sameContent, rfl,
        stores.isTidy⟩

/-- A change of finalizers is made on both sides if there is a cluster. -/
theorem call_of_corresponds {served : Served Server Rest} {shelved : Shelved Rest}
    (valid : key.IsValid) (corresponds : Corresponds objects held served shelved)
    (there : objects served.server (ObjectKind.cluster.path key) ≠ none)
    (change : FinalizerChange) (finalizer : String) :
    ∃ (cluster : Cluster) (document next : Json) (left? : Option Json) (after : Served Server Rest),
      (change.on finalizer cluster).key = key ∧ next.Keeps (change.on finalizer cluster) ∧
      document.Leaves next left? ∧
      LeadsTo objects (Function.update (objects served.server) (ObjectKind.cluster.path key) left?)
        served after ∧
      change.call (.kubernetes (connection handle)) key finalizer served = (.ok (), after) ∧
      change.call Shelved.store key finalizer shelved =
        (.ok (), { shelved with shelf := shelved.shelf.put (change.on finalizer cluster) }) := by
  have related := corresponds.kept key valid
  have shelvedRun : change.call Shelved.store key finalizer shelved =
      (.ok (), { shelved with shelf := shelved.shelf.change key (change.on finalizer) }) := by
    cases change <;> rfl
  generalize isThere : objects served.server (ObjectKind.cluster.path key) = document? at related
  generalize found : shelved.shelf.get? key = cluster? at related
  cases related with
  | none => exact absurd isThere there
  | some keeps =>
      obtain ⟨stored, stores, sameContent⟩ := keeps
      obtain ⟨next, left?, after, run, ⟨stored', stores', sameContent'⟩, leaves, leads⟩ :=
        call_of_stores serves valid isThere stores change finalizer
      rw [Shelf.change_of_get? found] at shelvedRun
      refine ⟨_, _, next, left?, after, ?_, ⟨stored', stores', ?_⟩, leaves, leads, run, shelvedRun⟩
      · rw [FinalizerChange.key_on, shelved.shelf.keyed found]
      · rw [sameContent', FinalizerChange.content_on, sameContent, FinalizerChange.content_on]

/-- A finalizer is added on both sides. -/
theorem addFinalizer_agrees (valid : key.IsValid) (finalizer : String) :
    ((ClusterStore.kubernetes (connection handle)).addFinalizer key finalizer).Agrees
      (Shelved.store.addFinalizer key finalizer)
      (Corresponds objects fun documents => documents (ObjectKind.cluster.path key) ≠ none)
      failing fun _ _ => Corresponds objects fun _ => True := by
  intro served shelved corresponds
  obtain ⟨cluster, document, next, left?, after, keyed, keeps, leaves, leads, run, shelvedRun⟩ :=
    call_of_corresponds serves valid corresponds corresponds.held .add finalizer
  have stays : left? = some next := leaves.eq_some fun loses =>
    FinalizerChange.not_isReleased_add finalizer cluster (loses.isReleased keeps)
  subst stays
  change Agree _ _ (FinalizerChange.add.call _ key finalizer served)
    (FinalizerChange.add.call _ key finalizer shelved)
  rw [run, shelvedRun]
  exact .ok (corresponds.forget.of_changed leads valid keyed keeps trivial)

/-- A finalizer is taken away on both sides, and with it the cluster may go from the server. -/
theorem removeFinalizer_agrees (valid : key.IsValid) (finalizer : String) :
    ((ClusterStore.kubernetes (connection handle)).removeFinalizer key finalizer).Agrees
      (Shelved.store.removeFinalizer key finalizer)
      (Corresponds objects fun documents => documents (ObjectKind.cluster.path key) ≠ none)
      failing fun _ _ => CorrespondsUnlessReleased objects key := by
  intro served shelved corresponds
  obtain ⟨cluster, document, next, left?, after, keyed, keeps, leaves, leads, run, shelvedRun⟩ :=
    call_of_corresponds serves valid corresponds corresponds.held .remove finalizer
  change Agree _ _ (FinalizerChange.remove.call _ key finalizer served)
    (FinalizerChange.remove.call _ key finalizer shelved)
  rw [run, shelvedRun]
  refine .ok ⟨?_, leads.rest.trans corresponds.rest, leads.untroubled corresponds.untroubled⟩
  rw [leads.documents]
  exact corresponds.kept.put_unlessReleased valid keyed keeps leaves

/-- Twins are closed on both sides, and this never fails. -/
theorem close_agrees
    (stable : ∀ documents document?, held documents →
      held (Function.update documents (ObjectKind.cluster.path scope.loaded.key) document?)) :
    (scope.close (.kubernetes (connection handle))).Agrees (scope'.close Shelved.store)
      (Corresponds objects fun documents => AreTwins documents scope scope' ∧ held documents)
      failing fun _ _ => Corresponds objects held := by
  intro served shelved corresponds
  obtain ⟨twins, holds⟩ := corresponds.held
  obtain ⟨document, there, stores⟩ := twins.stored
  obtain ⟨cluster, found, sameContent⟩ :=
    corresponds.kept.exists_of_stores twins.valid there stores
  obtain ⟨next, after, run, ⟨stored, stores', kept⟩, leads⟩ :=
    close_of_stores serves twins.valid there stores twins.core twins.tidy
  obtain ⟨cluster', shelvedRun, sameContent'⟩ := Shelved.close_of_content found
    (sameContent.symm.trans twins.loaded)
  have keeps : next.Keeps cluster' :=
    ⟨stored, stores', kept.trans (twins.current.trans sameContent'.symm)⟩
  have keyed : cluster'.key = scope.loaded.key :=
    (Cluster.eq_of_content_eq Cluster.key Cluster.key_content
      (sameContent'.trans twins.current.symm)).trans (Cluster.key_of_core_eq twins.core)
  rw [run, shelvedRun]
  exact .ok ((corresponds.imp And.right).of_changed leads twins.valid keyed keeps
    (stable _ _ holds))

end Served

end ClusterLinks
