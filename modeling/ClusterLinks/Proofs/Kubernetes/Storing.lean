import ClusterLinks.Proofs.Cluster.RoundTrip
import ClusterLinks.Proofs.Kubernetes.Filing
import ClusterLinks.Proofs.Pass.Content

/-!
# Documents that store clusters

What the operator sends is accepted by the document that was read, whatever version it bears, and
what comes of it stores the changed cluster. The content of that cluster is what was to be stored.
-/

namespace ClusterLinks

/-- The document is an object from which the cluster is read. Objects are maps, so the annotations
are in order. -/
structure Json.Stores (document : Json) (cluster : Cluster) : Prop where
  object : ∃ entries, document = .object entries
  reads : Cluster.read document = some cluster
  ordered :
    (Json.under "annotations" (Json.under "metadata" (document.entries?.getD []))).Ordered

variable {document patch : Json} {cluster before after : Cluster}

/-! ## What was read -/

/-- A document that stores a cluster has metadata. -/
theorem Json.Stores.exists_metadata (stores : document.Stores cluster) :
    ∃ entries metadata : Entries Json, document = .object entries ∧
      entries.get? "metadata" = some (.object metadata) ∧
      Metadata.read (.object metadata) = some cluster.metadata ∧
      (Json.under "annotations" metadata).Ordered := by
  obtain ⟨⟨entries, rfl⟩, reads, ordered⟩ := stores
  obtain ⟨⟨metadata, found, metadataRead⟩, -, -⟩ := Cluster.read_object_eq_some_iff.mp reads
  rw [Json.entries?, Option.getD_some, Json.under_of_get? found] at ordered
  exact ⟨entries, metadata, rfl, found, metadataRead, ordered⟩

/-- The version that was read is the version of the document. -/
theorem Json.Stores.version? (stores : document.Stores cluster) {version : String}
    (known : cluster.metadata.resourceVersion = some version) :
    ApiServer.version? document = some (.string version) := by
  obtain ⟨entries, metadata, rfl, found, metadataRead, -⟩ := stores.exists_metadata
  obtain ⟨-, -, -, -, versionRead⟩ := Metadata.of?_of_read metadataRead
  rw [known] at versionRead
  simp only [ApiServer.version?, Json.get?_object, found, Option.bind_some]
  exact Field.get?_of_optional_string _ versionRead

/-- Subnets that were read are tidy. -/
theorem Json.Stores.isTidy (stores : document.Stores cluster) : cluster.IsTidy := by
  obtain ⟨⟨entries, rfl⟩, reads, -⟩ := stores
  obtain ⟨-, ⟨spec, -, specRead⟩, -⟩ := Cluster.read_object_eq_some_iff.mp reads
  exact (NetworkSpec.isTidy_of_read (ClusterSpec.read_network specRead)).2.2

/-! ## What is sent -/

/-- A pass changes what a scope may write, and nothing else. -/
theorem Cluster.adopting_of_core_eq (sameCore : after.core = before.core) :
    before.adopting after = after := by
  have whole (cluster : Cluster) :
      (cluster.core.withSubnets cluster.subnets).withAnnotations cluster.metadata.annotations =
        cluster := rfl
  calc before.adopting after
      = (before.core.withSubnets after.subnets).withAnnotations after.metadata.annotations := rfl
    _ = after := by rw [← sameCore, whole]

/-- A modest patch leaves the annotations in order. -/
theorem Json.Stores.mergePatch {merged : Cluster} (stores : document.Stores cluster)
    (modest : Patch.IsModest patch)
    (reads : Cluster.read (document.mergePatch patch) = some merged) :
    (document.mergePatch patch).Stores merged := by
  obtain ⟨entries, metadata, rfl, found, -, ordered⟩ := stores.exists_metadata
  obtain ⟨changes, metadataChanges, rfl, distinct, changed, metadataDistinct, -, -, inside⟩ :=
    modest
  have atMetadata : (Json.mergeEntries entries changes).get? "metadata" =
      some (.object (Json.mergeEntries metadata metadataChanges)) := by
    rw [Json.get?_mergeEntries_object distinct changed, Json.under_of_get? found]
  refine ⟨⟨_, rfl⟩, reads, ?_⟩
  simp only [Json.mergePatch_object, Json.entries?, Option.getD_some]
  rw [Json.under_of_get? atMetadata]
  exact Patch.ordered_annotations_mergeEntries ordered metadataDistinct inside

namespace Patch

/-- The patch for a scope is accepted by the document from which its cluster was read, and makes a
document with the content that the cluster has now. -/
theorem stores_of_between? (stores : document.Stores before) (sameCore : after.core = before.core)
    (tidy : after.IsTidy) (patched : between? before after = some patch) :
    ApiServer.accepts document patch = true ∧
      ∃ merged, (document.mergePatch patch).Stores merged ∧ merged.content = after.content := by
  constructor
  · rw [ApiServer.accepts, version?_of_between? patched]
    cases known : before.metadata.resourceVersion with
    | none => rfl
    | some version => simp [stores.version? known]
  · have isAfter := (Cluster.adopting_of_core_eq sameCore).symm
    obtain ⟨entries, rfl⟩ := stores.object
    obtain ⟨annotations, mergedRead, same⟩ :=
      read_merged_of_ordered isAfter stores.ordered stores.reads tidy patched
    refine ⟨_, stores.mergePatch (isModest_of_between? patched) mergedRead, ?_⟩
    calc ((before.withSubnets after.subnets).withAnnotations annotations).content
        = (before.withSubnets after.subnets).content.withAnnotations
            (some (after.metadata.annotations.getD ∅)) := by
          rw [Cluster.content_withAnnotations, same]
      _ = after.content := congrArg Cluster.content isAfter.symm

/-- If there is nothing to send for a scope, then the content is what it was. -/
theorem content_of_between?_eq_none (sameCore : after.core = before.core)
    (nothing : between? before after = none) : after.content = before.content := by
  obtain ⟨sameAnnotations, sameSubnets⟩ := between?_eq_none_iff.mp nothing
  calc after.content
      = (before.adopting after).content := congrArg Cluster.content
          (Cluster.adopting_of_core_eq sameCore).symm
    _ = (before.withSubnets after.subnets).content.withAnnotations
          (some (after.metadata.annotations.getD ∅)) := rfl
    _ = before.content := by rw [← sameAnnotations, ← sameSubnets]; rfl

/-- The patch for finalizers is accepted by every document that stores a cluster. -/
theorem stores_of_finalizers (stores : document.Stores cluster) (names : List String) :
    ApiServer.accepts document (finalizers names) = true ∧
      (document.mergePatch (finalizers names)).Stores
        (cluster.withFinalizers (some names)) := by
  refine ⟨rfl, stores.mergePatch (isModest_finalizers names) ?_⟩
  obtain ⟨⟨entries, rfl⟩, reads, -⟩ := stores
  exact read_merged_finalizers reads names

end Patch

end ClusterLinks
