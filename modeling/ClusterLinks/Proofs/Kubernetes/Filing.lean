import ClusterLinks.Kubernetes.Server
import ClusterLinks.Proofs.Store.Patch
import ClusterLinks.Proofs.Text.Decimal

/-!
# Documents that an API server keeps

A server files an object under its key and numbers its versions. The patches that the operator
sends leave the key alone and ask for the version that is there, so what they make of a filed
document can be filed in its place. An object that is being deleted goes with its last finalizer
instead.
-/

namespace ClusterLinks

/-! ## What the operator writes -/

namespace Cluster

/-- What the operator writes in a cluster, with lists that are not set counted as empty. -/
structure Holdings where
  annotations : Dictionary String
  finalizers : List String
  subnets : List Subnet
  deriving DecidableEq

def holdings (cluster : Cluster) : Holdings where
  annotations := cluster.metadata.annotations.getD ∅
  finalizers := cluster.metadata.finalizers.getD []
  subnets := cluster.subnets

/-- The cluster with what a scope may write of another one. -/
def adopting (before after : Cluster) : Cluster :=
  (before.withSubnets after.subnets).withAnnotations after.metadata.annotations

/-- The cluster is being deleted, and no finalizer keeps it. -/
def IsReleased (cluster : Cluster) : Prop :=
  cluster.isDeleting = true ∧ cluster.holdings.finalizers = []

instance (cluster : Cluster) : Decidable cluster.IsReleased :=
  inferInstanceAs (Decidable (_ ∧ _))

end Cluster

/-- The stored object has finalizers, and with the next document it has none that would keep it. -/
def Json.LosesLastFinalizer (stored next : Json) : Prop :=
  ∃ before ∈ Cluster.read stored, ∃ after ∈ Cluster.read next,
    before.holdings.finalizers ≠ [] ∧ after.IsReleased

instance (stored next : Json) : Decidable (stored.LosesLastFinalizer next) :=
  inferInstanceAs (Decidable (∃ before ∈ Cluster.read stored, ∃ after ∈ Cluster.read next, _))

theorem Json.losesLastFinalizer_iff {stored next : Json} {before after : Cluster}
    (isBefore : Cluster.read stored = some before) (isAfter : Cluster.read next = some after) :
    stored.LosesLastFinalizer next ↔ before.holdings.finalizers ≠ [] ∧ after.IsReleased := by
  simp [LosesLastFinalizer, isBefore, isAfter]

/-! ## Changed metadata -/

section Metadata

variable {entries inner : Entries Json} {metadata : Metadata} {cluster : Cluster}

/-- A cluster with other metadata, and everything else as it was. -/
theorem Cluster.read_insert_metadata (reads : read (.object entries) = some cluster)
    (metadataRead : Metadata.read (.object inner) = some metadata) :
    read (.object (entries.insert "metadata" (.object inner))) =
      some { cluster with metadata } := by
  rcases read_object_eq_some_iff.mp reads with ⟨-, ⟨spec, specFound, specRead⟩, statusRead⟩
  apply read_object_eq_some_iff.mpr
  refine ⟨⟨inner, Entries.get?_insert_self _ _ _, metadataRead⟩, ⟨spec, ?_, specRead⟩, ?_⟩
  · exact (Entries.get?_insert_of_ne _ _ (by decide)).trans specFound
  · exact (Field.of?_insert_of_ne _ (by decide)).trans statusRead

theorem Metadata.read_insert_finalizers (reads : read (.object entries) = some metadata)
    (names : List String) :
    read (.object (entries.insert "finalizers" ((Codec.list Codec.string).write names))) =
      some { metadata with finalizers := some names } := by
  have namesBack : (Codec.list Codec.string).RoundTrips names :=
    Codec.list_roundTrips fun name _ => Codec.string_roundTrips name
  rcases of?_of_read reads with ⟨-, -, annotationsRead, -, versionRead⟩
  apply read_of_changed reads
  · intro name foreign
    exact Entries.get?_insert_of_ne _ _ (by rintro rfl; simp at foreign)
  · exact (Field.of?_insert_of_ne _ (by decide)).trans annotationsRead
  · exact Field.of?_optional_of_get? "finalizers" (Entries.get?_insert_self _ _ _)
      (by simp [Codec.list]) namesBack
  · exact (Field.of?_insert_of_ne _ (by decide)).trans versionRead

theorem Metadata.read_insert_version (reads : read (.object entries) = some metadata)
    (version : String) :
    read (.object (entries.insert "resourceVersion" (.string version))) =
      some { metadata with resourceVersion := some version } := by
  rcases of?_of_read reads with ⟨-, -, annotationsRead, finalizersRead, -⟩
  apply read_of_changed reads
  · intro name foreign
    exact Entries.get?_insert_of_ne _ _ (by rintro rfl; simp at foreign)
  · exact (Field.of?_insert_of_ne _ (by decide)).trans annotationsRead
  · exact (Field.of?_insert_of_ne _ (by decide)).trans finalizersRead
  · exact Field.of?_optional_of_get? "resourceVersion" (Entries.get?_insert_self _ _ _)
      (by simp) (Codec.string_roundTrips version)

end Metadata

namespace Patch

/-- The patch does not name the key of an object, and changes annotations one by one. -/
def IsModest (patch : Json) : Prop :=
  ∃ changes metadata : Entries Json, patch = .object changes ∧ changes.Distinct ∧
    changes.get? "metadata" = some (.object metadata) ∧ metadata.Distinct ∧
    metadata.get? "name" = none ∧ metadata.get? "namespace" = none ∧
    ∀ change, metadata.get? "annotations" = some change → ∃ inner, change = .object inner

variable {before after : Cluster} {patch : Json} {entries : Entries Json}

/-- The operator sends the difference between two states of a cluster, or a list of finalizers. -/
def IsSent (patch : Json) : Prop :=
  (∃ before after, between? before after = some patch) ∨ ∃ names, patch = finalizers names

theorem isModest_of_between? (patched : between? before after = some patch) :
    IsModest patch := by
  refine ⟨changes before after, metadataChanges before after, eq_of_between? patched,
    distinct_changes _ _, get?_changes_metadata _ _, distinct_metadataChanges _ _,
    get?_metadataChanges_other _ _ (by decide) (by decide),
    get?_metadataChanges_other _ _ (by decide) (by decide), ?_⟩
  intro change found
  rw [get?_metadataChanges_annotations] at found
  split at found
  · cases found
  · cases found
    exact ⟨_, rfl⟩

/-- A change asks for the version that the cluster was read at. -/
theorem version?_of_between? (patched : between? before after = some patch) :
    ApiServer.version? patch = before.metadata.resourceVersion.map .string := by
  rw [eq_of_between? patched, ← get?_metadataChanges_version before after]
  rfl

/-- Annotations in order stay in order when they are changed one by one. -/
theorem ordered_annotations_mergeEntries {metadata changes : Entries Json}
    (ordered : (Json.under "annotations" metadata).Ordered) (distinct : changes.Distinct)
    (inside : ∀ change, changes.get? "annotations" = some change →
      ∃ inner, change = .object inner) :
    (Json.under "annotations" (Json.mergeEntries metadata changes)).Ordered := by
  cases changed : changes.get? "annotations" with
  | none =>
      have unchanged : (Json.mergeEntries metadata changes).get? "annotations" =
          Entries.get? "annotations" metadata := by
        rw [Json.get?_mergeEntries distinct, changed]
      rw [Json.under_congr unchanged]
      exact ordered
  | some change =>
      obtain ⟨inner, rfl⟩ := inside change changed
      rw [Json.under_of_get? (Json.get?_mergeEntries_object distinct changed metadata)]
      exact Json.ordered_mergeEntries ordered inner

/-- Only what a scope may write makes a difference to a change. -/
theorem between?_adopting (before after : Cluster) :
    between? before (before.adopting after) = between? before after := rfl

/-- A change makes a document with all that a scope may write. -/
theorem read_merged_holdings
    (ordered : (Json.under "annotations" (Json.under "metadata" entries)).Ordered)
    (reads : Cluster.read (.object entries) = some before)
    (tidy : ∀ subnet ∈ after.subnets, subnet.IsTidy)
    (patched : between? before after = some patch) :
    ∃ merged, Cluster.read ((Json.object entries).mergePatch patch) = some merged ∧
      merged.holdings = (before.adopting after).holdings := by
  rw [← between?_adopting] at patched
  rcases read_merged_of_ordered rfl ordered reads tidy patched with ⟨annotations, merged, same⟩
  refine ⟨_, merged, ?_⟩
  simp only [Cluster.holdings, Cluster.withAnnotations, same]
  rfl

theorem isModest_finalizers (names : List String) : IsModest (finalizers names) := by
  refine ⟨_, _, rfl, ?_, rfl, ?_, rfl, rfl, ?_⟩
  · simp [Entries.Distinct]
  · simp [Entries.Distinct]
  · intro change found
    cases found

theorem IsSent.isModest (isSent : IsSent patch) : IsModest patch := by
  rcases isSent with ⟨before, after, patched⟩ | ⟨names, rfl⟩
  · exact isModest_of_between? patched
  · exact isModest_finalizers names

/-- A patch of finalizers makes a document with these finalizers and everything else as it was. -/
theorem read_merged_finalizers (reads : Cluster.read (.object entries) = some before)
    (names : List String) :
    Cluster.read ((Json.object entries).mergePatch (finalizers names)) =
      some (before.withFinalizers (some names)) := by
  rcases Cluster.read_object_eq_some_iff.mp reads with
    ⟨⟨metadata, metadataFound, metadataRead⟩, -, -⟩
  rw [finalizers, Json.mergePatch_object, Json.mergeEntries_cons (by simp), Json.mergeEntries,
    Json.mergePatch_object, Json.mergeEntries_cons (by simp [Codec.list]), Json.mergeEntries]
  simp only [Json.entries?, Option.getD_some, metadataFound, Codec.list, Json.mergePatch_array]
  exact Cluster.read_insert_metadata reads (Metadata.read_insert_finalizers metadataRead names)

end Patch

/-! ## Filed documents -/

namespace ApiServer

/-- The version of a document, if it is a number. -/
def versionNumber? (document : Json) : Option Nat :=
  ((version? document).bind Json.string?).bind Decimal.natural?

/-- A document that is filed under a key, with the number of its version. Objects are maps, so the
annotations are in order. -/
structure IsFiled (key : ObjectKey) (number : Nat) (document : Json) : Prop where
  name : document.at? ["metadata", "name"] = some (.string key.name)
  space : document.at? ["metadata", "namespace"] = some (.string key.space)
  version : versionNumber? document = some number
  ordered :
    (Json.under "annotations" (Json.under "metadata" (document.entries?.getD []))).Ordered

instance (key : ObjectKey) (number : Nat) (document : Json) :
    Decidable (IsFiled key number document) :=
  decidable_of_iff
    (document.at? ["metadata", "name"] = some (.string key.name) ∧
      document.at? ["metadata", "namespace"] = some (.string key.space) ∧
      versionNumber? document = some number ∧
      (Json.under "annotations" (Json.under "metadata" (document.entries?.getD []))).Ordered)
    ⟨fun ⟨name, space, version, ordered⟩ => ⟨name, space, version, ordered⟩,
      fun filed => ⟨filed.name, filed.space, filed.version, filed.ordered⟩⟩

section Filed

variable {key : ObjectKey} {number : Nat} {entries metadata : Entries Json} {document : Json}
  {cluster : Cluster}

/-- What it takes to be filed, said of the metadata. -/
theorem isFiled_object_iff (found : Entries.get? "metadata" entries = some (.object metadata)) :
    IsFiled key number (.object entries) ↔
      metadata.get? "name" = some (.string key.name) ∧
        metadata.get? "namespace" = some (.string key.space) ∧
        (∃ text, metadata.get? "resourceVersion" = some (.string text) ∧
          Decimal.natural? text = some number) ∧
        (Json.under "annotations" metadata).Ordered := by
  have atKey (name : String) :
      (Json.object entries).at? ["metadata", name] = metadata.get? name := by
    simp only [Json.at?, Json.get?_object, found, Option.bind_some]
    cases Entries.get? name metadata <;> rfl
  have versionIff : versionNumber? (.object entries) = some number ↔
      ∃ text, metadata.get? "resourceVersion" = some (.string text) ∧
        Decimal.natural? text = some number := by
    simp only [versionNumber?, version?, Json.get?_object, found, Option.bind_some]
    constructor
    · intro numbered
      rcases Option.bind_eq_some_iff.mp numbered with ⟨text, isText, denotes⟩
      rcases Option.bind_eq_some_iff.mp isText with ⟨version, versionFound, isString⟩
      cases version <;> cases isString
      exact ⟨_, versionFound, denotes⟩
    · intro numbered
      rcases numbered with ⟨text, versionFound, denotes⟩
      rw [versionFound]
      exact denotes
  constructor
  · intro filed
    have ordered := filed.ordered
    rw [Json.entries?, Option.getD_some, Json.under_of_get? found] at ordered
    exact ⟨(atKey _).symm.trans filed.name, (atKey _).symm.trans filed.space,
      versionIff.mp filed.version, ordered⟩
  · intro parts
    rcases parts with ⟨name, space, version, ordered⟩
    refine ⟨(atKey _).trans name, (atKey _).trans space, versionIff.mpr version, ?_⟩
    rwa [Json.entries?, Option.getD_some, Json.under_of_get? found]

/-- A filed document is an object with metadata. -/
theorem IsFiled.exists_metadata (filed : IsFiled key number document) :
    ∃ entries metadata, document = .object entries ∧
      Entries.get? "metadata" entries = some (.object metadata) := by
  rcases Option.bind_eq_some_iff.mp filed.name with ⟨part, partFound, isNamed⟩
  rcases Option.bind_eq_some_iff.mp partFound with ⟨entries, isObject, metadataFound⟩
  rcases Option.bind_eq_some_iff.mp isNamed with ⟨name, nameFound, -⟩
  rcases Option.bind_eq_some_iff.mp nameFound with ⟨metadata, partIsObject, -⟩
  rw [Json.entries?_eq_some_iff] at isObject partIsObject
  subst isObject partIsObject
  exact ⟨entries, metadata, rfl, metadataFound⟩

/-- Who reads a filed document learns its key and its version. -/
theorem IsFiled.of_read (filed : IsFiled key number document)
    (reads : Cluster.read document = some cluster) :
    cluster.key = key ∧
      ∃ text, cluster.metadata.resourceVersion = some text ∧
        version? document = some (.string text) ∧
        Decimal.natural? text = some number := by
  rcases filed.exists_metadata with ⟨entries, metadata, rfl, found⟩
  rcases (isFiled_object_iff found).mp filed with
    ⟨nameFound, spaceFound, ⟨text, versionFound, denotes⟩, -⟩
  rcases Cluster.read_object_eq_some_iff.mp reads with
    ⟨⟨inner, innerFound, metadataRead⟩, -, -⟩
  have same : inner = metadata := by simpa [found, eq_comm] using innerFound
  subst same
  rcases Metadata.of?_of_read metadataRead with ⟨nameRead, spaceRead, -, -, versionRead⟩
  have textRead {name text : String} (textFound : Entries.get? name inner = some (.string text)) :
      (Field.optional name Codec.string).of? inner = some (some text) :=
    Field.of?_optional_of_get? name textFound (by simp) (Codec.string_roundTrips text)
  have nameSet := nameRead.symm.trans (textRead nameFound)
  have spaceSet := spaceRead.symm.trans (textRead spaceFound)
  have versionSet := versionRead.symm.trans (textRead versionFound)
  rw [Option.some.injEq] at nameSet spaceSet versionSet
  refine ⟨?_, text, versionSet, ?_, denotes⟩
  · simp only [Cluster.key, Cluster.displayName, Metadata.displayName, nameSet, spaceSet]
    rfl
  · simp only [version?, Json.get?_object, found, Option.bind_some]
    exact versionFound

/-- A patch that is modest and asks for no other version makes a document that is filed as the
one before. -/
theorem IsFiled.mergePatch {patch : Json} (filed : IsFiled key number document)
    (modest : Patch.IsModest patch) (accepted : accepts document patch = true) :
    IsFiled key number (document.mergePatch patch) := by
  rcases filed.exists_metadata with ⟨entries, metadata, rfl, found⟩
  rcases modest with ⟨changes, metadataChanges, rfl, distinct, changed, metadataDistinct, noName,
    noSpace, annotationsInside⟩
  rcases (isFiled_object_iff found).mp filed with
    ⟨name, space, ⟨text, versionFound, denotes⟩, ordered⟩
  have atMetadata : (Json.mergeEntries entries changes).get? "metadata" =
      some (.object (Json.mergeEntries metadata metadataChanges)) := by
    rw [Json.get?_mergeEntries_object distinct changed, Json.under_of_get? found]
  have atKey := Json.get?_mergeEntries metadataDistinct metadata
  rw [Json.mergePatch_object]
  apply (isFiled_object_iff atMetadata).mpr
  refine ⟨?_, ?_, ⟨text, ?_, denotes⟩, ?_⟩
  · rw [atKey, noName]
    exact name
  · rw [atKey, noSpace]
    exact space
  · have asked : version? (.object changes) = metadataChanges.get? "resourceVersion" := by
      simp only [version?, Json.get?_object, changed, Option.bind_some]
    have there : version? (.object entries) = some (.string text) := by
      simp only [version?, Json.get?_object, found, Option.bind_some]
      exact versionFound
    rw [accepts, asked, there] at accepted
    rw [atKey]
    split at accepted
    · next version isAsked =>
        have same : Json.string text = version := by simpa using accepted
        simp [isAsked, ← same]
    · next notAsked =>
        rw [notAsked]
        exact versionFound
  · exact Patch.ordered_annotations_mergeEntries ordered metadataDistinct annotationsInside

/-- What the next version of a filed document is. -/
theorem withNextVersion_object {text : String}
    (found : Entries.get? "metadata" entries = some (.object metadata))
    (versionFound : metadata.get? "resourceVersion" = some (.string text))
    (denotes : Decimal.natural? text = some number) (room : number < Decimal.max64) :
    withNextVersion (.object entries) =
      .object (entries.insert "metadata"
        (.object (metadata.insert "resourceVersion" (.string (toString (number + 1)))))) := by
  have version : version? (.object entries) = some (.string text) := by
    simp only [version?, Json.get?_object, found, Option.bind_some]
    exact versionFound
  have counted := Decimal.unsigned?_of_natural? denotes (Nat.le_of_lt room)
  simp only [withNextVersion, version, Json.entries?, Json.get?_object, found, Option.bind_some,
    nextVersion, counted]

/-- The next version of a filed document is filed under the next number. -/
theorem IsFiled.withNextVersion (filed : IsFiled key number document)
    (room : number < Decimal.max64) :
    IsFiled key (number + 1) (withNextVersion document) := by
  rcases filed.exists_metadata with ⟨entries, metadata, rfl, found⟩
  rcases (isFiled_object_iff found).mp filed with
    ⟨name, space, ⟨text, versionFound, denotes⟩, ordered⟩
  rw [withNextVersion_object found versionFound denotes room]
  apply (isFiled_object_iff (Entries.get?_insert_self _ _ _)).mpr
  refine ⟨?_, ?_, ⟨_, Entries.get?_insert_self _ _ _, Decimal.natural?_toString _⟩, ?_⟩
  · exact (Entries.get?_insert_of_ne _ _ (by decide)).trans name
  · exact (Entries.get?_insert_of_ne _ _ (by decide)).trans space
  · rw [Json.under_congr (Entries.get?_insert_of_ne _ _ (by decide))]
    exact ordered

/-- The next version holds what the version before held. -/
theorem IsFiled.read_withNextVersion (filed : IsFiled key number document)
    (room : number < Decimal.max64) (reads : Cluster.read document = some cluster) :
    ∃ next, Cluster.read (ApiServer.withNextVersion document) = some next ∧
      next.holdings = cluster.holdings := by
  rcases filed.exists_metadata with ⟨entries, metadata, rfl, found⟩
  rcases (isFiled_object_iff found).mp filed with ⟨-, -, ⟨text, versionFound, denotes⟩, -⟩
  rcases Cluster.read_object_eq_some_iff.mp reads with
    ⟨⟨inner, innerFound, metadataRead⟩, -, -⟩
  have same : inner = metadata := by simpa [found, eq_comm] using innerFound
  subst same
  rw [withNextVersion_object found versionFound denotes room]
  exact ⟨_, Cluster.read_insert_metadata reads (Metadata.read_insert_version metadataRead _), rfl⟩

end Filed

end ApiServer

end ClusterLinks
