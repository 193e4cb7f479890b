import ClusterLinks.Proofs.Cluster.Documents
import ClusterLinks.Store.Patch

/-!
# A patch is the difference

Merging a patch into the document that a cluster was read from gives a document that the changed
cluster is read from, and it leaves alone all that has not changed. There is no patch exactly if
there is nothing to change.
-/

namespace ClusterLinks.Patch

/-! ## Annotations -/

section Annotations

variable {old new : Dictionary String}

/-- The changes that lead from one annotation map to another. -/
def annotationChanges (old new : Dictionary String) : Entries Json :=
  changedAnnotations old new ++ removedAnnotations old new

theorem mem_changedAnnotations {key : String} {change : Json} :
    (key, change) ∈ changedAnnotations old new ↔
      ∃ value, new.get? key = some value ∧ old.get? key ≠ some value ∧ change = .string value := by
  simp only [changedAnnotations, List.mem_map, List.mem_filter, decide_eq_true_eq, Prod.mk.injEq]
  constructor
  · intro mapped
    rcases mapped with ⟨⟨name, value⟩, ⟨member, differs⟩, rfl, rfl⟩
    exact ⟨value, Dictionary.mem_entries_iff.mp member, differs, rfl⟩
  · intro changed
    rcases changed with ⟨value, found, differs, rfl⟩
    exact ⟨(key, value), ⟨Dictionary.mem_entries_iff.mpr found, differs⟩, rfl, rfl⟩

theorem mem_removedAnnotations {key : String} {change : Json} :
    (key, change) ∈ removedAnnotations old new ↔
      new.get? key = none ∧ old.get? key ≠ none ∧ change = .null := by
  simp only [removedAnnotations, List.mem_map, List.mem_filter, Prod.mk.injEq]
  constructor
  · intro mapped
    rcases mapped with ⟨⟨name, value⟩, ⟨member, gone⟩, rfl, rfl⟩
    have found := Dictionary.mem_entries_iff.mp member
    exact ⟨by simpa [Dictionary.contains, Entries.has, Dictionary.get?] using gone,
      by simp [found], rfl⟩
  · intro removed
    rcases removed with ⟨gone, there, rfl⟩
    rcases Option.ne_none_iff_exists'.mp there with ⟨value, found⟩
    refine ⟨(key, value), ⟨Dictionary.mem_entries_iff.mpr found, ?_⟩, rfl, rfl⟩
    simpa [Dictionary.contains, Entries.has, Dictionary.get?] using gone

/-- No annotation is changed twice. -/
theorem distinct_annotationChanges (old new : Dictionary String) :
    (annotationChanges old new).Distinct := by
  have changedOnce : (changedAnnotations old new).Distinct := by
    rw [changedAnnotations, Entries.Distinct, List.map_map]
    exact List.Nodup.sublist (List.filter_sublist.map _) new.ordered.distinct
  have removedOnce : (removedAnnotations old new).Distinct := by
    rw [removedAnnotations, Entries.Distinct, List.map_map]
    exact List.Nodup.sublist (List.filter_sublist.map _) old.ordered.distinct
  rw [annotationChanges, Entries.Distinct, List.map_append]
  apply List.nodup_append.mpr
  refine ⟨changedOnce, removedOnce, ?_⟩
  intro key changed other removed equal
  rcases List.mem_map.mp changed with ⟨⟨name, change⟩, changedMember, rfl⟩
  rcases List.mem_map.mp removed with ⟨⟨name', change'⟩, removedMember, rfl⟩
  rcases mem_changedAnnotations.mp changedMember with ⟨value, found, -⟩
  rcases mem_removedAnnotations.mp removedMember with ⟨gone, -⟩
  cases equal
  rw [gone] at found
  cases found

/-- A key is changed exactly if its values differ, and then to the new value or to `null`. -/
theorem get?_annotationChanges (old new : Dictionary String) (key : String) :
    (annotationChanges old new).get? key =
      if old.get? key = new.get? key then none
      else some ((new.get? key).elim .null .string) := by
  have distinct := distinct_annotationChanges old new
  split
  · next equal =>
      apply Entries.get?_eq_none_iff.mpr
      intro entry member isKey
      rcases entry with ⟨name, change⟩
      cases isKey
      rcases List.mem_append.mp member with changed | removed
      · rcases mem_changedAnnotations.mp changed with ⟨value, found, differs, -⟩
        exact differs (equal.trans found)
      · rcases mem_removedAnnotations.mp removed with ⟨gone, there, -⟩
        exact there (equal.trans gone)
  · next different =>
      apply distinct.get?_of_mem
      apply List.mem_append.mpr
      cases found : new.get? key with
      | some value =>
          rw [found] at different
          exact .inl (mem_changedAnnotations.mpr ⟨value, found, different, rfl⟩)
      | none =>
          rw [found] at different
          exact .inr (mem_removedAnnotations.mpr ⟨found, different, rfl⟩)

theorem annotationChanges_eq_nil_iff : annotationChanges old new = [] ↔ old = new := by
  constructor
  · intro nothing
    apply Dictionary.ext_get?
    intro key
    have unchanged := get?_annotationChanges old new key
    rw [nothing, Entries.get?_nil] at unchanged
    by_contra different
    simp [different] at unchanged
  · rintro rfl
    apply List.eq_nil_iff_forall_not_mem.mpr
    intro entry member
    rcases entry with ⟨key, change⟩
    have changed := (distinct_annotationChanges old old).get?_of_mem member
    simp [get?_annotationChanges] at changed

/-- Merging the changes into the old annotations gives the new ones. -/
theorem read_mergeEntries_annotations {entries : Entries Json} (ordered : entries.Ordered)
    (held : ∀ key, entries.get? key = (old.get? key).map .string) :
    (Codec.dictionary Codec.string).read
      (.object (Json.mergeEntries entries (annotationChanges old new).order)) = some new := by
  apply (Codec.read_texts_iff (Json.ordered_mergeEntries ordered _)).mpr
  intro key
  rw [Json.get?_mergeEntries (Entries.ordered_order _).distinct,
    Entries.get?_order key (distinct_annotationChanges old new), get?_annotationChanges, held]
  by_cases equal : old.get? key = new.get? key
  · rw [if_pos equal, equal]
  · rw [if_neg equal]
    cases new.get? key with
    | none => rfl
    | some value => simp

end Annotations

/-! ## Metadata -/

section Metadata

variable {before after : Cluster} {entries : Entries Json}

theorem annotations_eq (before after : Cluster) :
    annotations before after =
      annotationChanges (before.metadata.annotations.getD ∅)
        (after.metadata.annotations.getD ∅) := rfl

/-- What a patch says about metadata. -/
def metadataChanges (before after : Cluster) : Entries Json :=
  (if (annotations before after).isEmpty then []
    else [("annotations", Json.ofEntries (annotations before after))]) ++ version before

theorem distinct_metadataChanges (before after : Cluster) :
    (metadataChanges before after).Distinct := by
  unfold metadataChanges version
  split <;> split <;> simp [Entries.Distinct]

theorem get?_metadataChanges_annotations (before after : Cluster) :
    (metadataChanges before after).get? "annotations" =
      if (annotations before after).isEmpty then none
      else some (Json.ofEntries (annotations before after)) := by
  unfold metadataChanges version
  split <;> split <;> simp [Entries.get?_cons]

theorem get?_metadataChanges_version (before after : Cluster) :
    (metadataChanges before after).get? "resourceVersion" =
      before.metadata.resourceVersion.map .string := by
  unfold metadataChanges version
  split <;> split <;> simp_all [Entries.get?_cons]

theorem get?_metadataChanges_other (before after : Cluster) {key : String}
    (notAnnotations : key ≠ "annotations") (notVersion : key ≠ "resourceVersion") :
    (metadataChanges before after).get? key = none := by
  unfold metadataChanges version
  split <;> split <;> simp [Entries.get?_cons, notAnnotations, notVersion]

/-- A patch changes nothing about the metadata but the annotations; the version that it names is
the one that was read. -/
theorem get?_merged_of_ne (reads : Metadata.read (.object entries) = some before.metadata)
    {key : String} (notAnnotations : key ≠ "annotations") :
    (Json.mergeEntries entries (metadataChanges before after)).get? key = entries.get? key := by
  rw [Json.get?_mergeEntries (distinct_metadataChanges before after)]
  by_cases isVersion : key = "resourceVersion"
  · subst isVersion
    rw [get?_metadataChanges_version]
    cases known : before.metadata.resourceVersion with
    | none => rfl
    | some version =>
        rcases Metadata.of?_of_read reads with ⟨-, -, -, -, versionRead⟩
        rw [known] at versionRead
        have found := Field.get?_of_optional_string _ versionRead
        simp [found]
  · rw [get?_metadataChanges_other before after notAnnotations isVersion]

theorem ordered_annotations (canonical : (Json.object entries).canonical = .object entries) :
    (Json.under "annotations" entries).Ordered := by
  cases found : entries.get? "annotations" with
  | none =>
      rw [Json.under, found]
      exact List.Pairwise.nil
  | some held =>
      have heldCanonical := Json.canonical_of_get? canonical found
      rw [Json.under, found]
      cases held with
      | object inner => exact Json.ordered_of_canonical heldCanonical
      | _ => exact List.Pairwise.nil

/-- What the document says about annotations, as texts. -/
theorem annotations_held (ordered : (Json.under "annotations" entries).Ordered)
    (reads : Metadata.read (.object entries) = some before.metadata) (key : String) :
    (Json.under "annotations" entries).get? key =
      ((before.metadata.annotations.getD ∅).get? key).map .string := by
  rcases Metadata.of?_of_read reads with ⟨-, -, annotationsRead, -⟩
  rcases (Field.of?_optional_eq_some_iff "annotations").mp annotationsRead
    with ⟨absent, unset⟩ | ⟨document, found, -, texts, textsRead, equal⟩
  · rw [Json.under, absent, unset]
    rfl
  · rcases Option.bind_eq_some_iff.mp textsRead with ⟨inner, isObject, -⟩
    rw [Json.entries?_eq_some_iff] at isObject
    subst isObject
    rw [Json.under_of_get? found] at ordered ⊢
    rw [equal]
    exact (Codec.read_texts_iff ordered).mp textsRead key

/-- The metadata of the merged document: those of the first cluster with the annotations of the
second one, an unset map counted as an empty one. -/
theorem read_merged_metadata (ordered : (Json.under "annotations" entries).Ordered)
    (reads : Metadata.read (.object entries) = some before.metadata) :
    ∃ merged, Metadata.read (.object (Json.mergeEntries entries (metadataChanges before after))) =
        some { before.metadata with annotations := merged } ∧
      merged.getD ∅ = after.metadata.annotations.getD ∅ := by
  have others (name : String) (different : name ≠ "annotations") :
      (Json.mergeEntries entries (metadataChanges before after)).get? name = entries.get? name :=
    get?_merged_of_ne reads different
  have atAnnotations : (Json.mergeEntries entries (metadataChanges before after)).get?
      "annotations" = _ := Json.get?_mergeEntries (distinct_metadataChanges before after) _ _
  rw [get?_metadataChanges_annotations] at atAnnotations
  cases changed : (annotations before after).isEmpty with
  | true =>
      rw [changed] at atAnnotations
      refine ⟨before.metadata.annotations, ?_, ?_⟩
      · rcases Metadata.of?_of_read reads with ⟨-, -, annotationsRead, -⟩
        apply Metadata.read_of_annotations reads others
        rw [← annotationsRead]
        exact Field.of?_congr atAnnotations
      · exact annotationChanges_eq_nil_iff.mp (List.isEmpty_iff.mp changed)
  | false =>
      rw [changed] at atAnnotations
      refine ⟨some (after.metadata.annotations.getD ∅), ?_, rfl⟩
      apply Metadata.read_of_annotations reads others
      apply (Field.of?_optional_eq_some_iff "annotations").mpr
      refine .inr ⟨_, atAnnotations, ?_, _, ?_, rfl⟩
      · simp [Json.ofEntries, Json.mergePatch_object]
      · rw [Json.ofEntries, Json.mergePatch_object]
        exact read_mergeEntries_annotations ordered (annotations_held ordered reads)

end Metadata

/-! ## Specification -/

section Specification

variable {entries : Entries Json}

/-- What a patch says about a specification with other subnets. -/
def specChange (subnets : List Subnet) : Json :=
  .object
    [("networkSpec", .object [("subnets", (Codec.list Subnet.codec).write subnets)])]

/-- The specification of the merged document has the new subnets, and everything else as it was. -/
theorem read_merged_spec {spec : ClusterSpec} {subnets : List Subnet}
    (reads : ClusterSpec.read (.object entries) = some spec)
    (tidy : ∀ subnet ∈ subnets, subnet.IsTidy) :
    ClusterSpec.read ((Json.object entries).mergePatch (specChange subnets)) =
      some { spec with network.subnets := subnets } := by
  have networkRead := NetworkSpec.read_insert_subnets (ClusterSpec.read_network reads) tidy
  rw [specChange, Json.mergePatch_object, Json.mergeEntries_cons (by simp), Json.mergeEntries,
    Json.mergePatch_object, Json.mergeEntries_cons (by simp [Codec.list]), Json.mergeEntries]
  rw [← ClusterSpec.read_insert_network reads networkRead]
  rfl

end Specification

/-! ## Whole documents -/

section Documents

variable {before after : Cluster} {entries : Entries Json} {patch : Json}

/-- What a patch says, if there is one. -/
def changes (before after : Cluster) : Entries Json :=
  ("metadata", .object (metadataChanges before after)) :: spec before after

theorem distinct_changes (before after : Cluster) : (changes before after).Distinct := by
  unfold changes spec
  split <;> simp [Entries.Distinct]

theorem get?_changes_metadata (before after : Cluster) :
    (changes before after).get? "metadata" = some (.object (metadataChanges before after)) := rfl

theorem get?_changes_spec (before after : Cluster) :
    (changes before after).get? "spec" =
      if before.subnets = after.subnets then none else some (specChange after.subnets) := by
  unfold changes spec
  split <;> rfl

theorem get?_changes_other (before after : Cluster) {key : String} (notMetadata : key ≠ "metadata")
    (notSpec : key ≠ "spec") : (changes before after).get? key = none := by
  unfold changes spec
  split <;> simp [Entries.get?_cons, notMetadata, notSpec]

theorem between?_eq (before after : Cluster) :
    between? before after =
      if (annotations before after).isEmpty && (spec before after).isEmpty then none
      else some (.object (changes before after)) := rfl

theorem eq_of_between? (patched : between? before after = some patch) :
    patch = .object (changes before after) := by
  rw [between?_eq] at patched
  split at patched
  · cases patched
  · cases patched
    rfl

/-- There is no patch exactly if annotations, unset or empty, and subnets are the same. -/
theorem between?_eq_none_iff :
    between? before after = none ↔
      before.metadata.annotations.getD ∅ = after.metadata.annotations.getD ∅ ∧
        before.subnets = after.subnets := by
  have sameAnnotations : annotations before after = [] ↔
      before.metadata.annotations.getD ∅ = after.metadata.annotations.getD ∅ :=
    annotationChanges_eq_nil_iff
  have sameSubnets : spec before after = [] ↔ before.subnets = after.subnets := by
    unfold spec
    split <;> simp_all
  rw [← sameAnnotations, ← sameSubnets, between?_eq]
  simp only [Bool.and_eq_true, List.isEmpty_iff]
  split <;> simp_all

/-- The merged document is read as the second cluster, as far as patches make a difference. -/
theorem read_merged_of_ordered {subnets : List Subnet}
    {annotations : Option (Dictionary String)}
    (isAfter : after = (before.withSubnets subnets).withAnnotations annotations)
    (ordered : (Json.under "annotations" (Json.under "metadata" entries)).Ordered)
    (reads : Cluster.read (.object entries) = some before)
    (tidy : ∀ subnet ∈ subnets, subnet.IsTidy)
    (patched : between? before after = some patch) :
    ∃ merged, Cluster.read ((Json.object entries).mergePatch patch) =
        some ((before.withSubnets subnets).withAnnotations merged) ∧
      merged.getD ∅ = annotations.getD ∅ := by
  have newSubnets : after.subnets = subnets := by
    rw [isAfter]
    rfl
  have newAnnotations : after.metadata.annotations = annotations := by
    rw [isAfter]
    rfl
  rcases Cluster.read_object_eq_some_iff.mp reads with
    ⟨⟨metadata, metadataFound, metadataRead⟩, ⟨specEntries, specFound, specRead⟩, statusRead⟩
  rw [Json.under_of_get? metadataFound] at ordered
  rcases read_merged_metadata ordered metadataRead with ⟨merged, mergedRead, sameAnnotations⟩
  have atKey (key : String) := Json.get?_mergeEntries (distinct_changes before after) entries key
  rw [newAnnotations] at sameAnnotations
  refine ⟨merged, ?_, sameAnnotations⟩
  rw [eq_of_between? patched, Json.mergePatch_object]
  apply Cluster.read_object_eq_some_iff.mpr
  refine ⟨⟨_, ?_, mergedRead⟩, ?_, ?_⟩
  · have merge := atKey "metadata"
    rw [get?_changes_metadata, metadataFound] at merge
    exact merge
  · have merge := atKey "spec"
    rw [get?_changes_spec, newSubnets, specFound] at merge
    by_cases same : before.subnets = subnets
    · rw [if_pos same] at merge
      subst same
      exact ⟨specEntries, merge, specRead⟩
    · rw [if_neg same] at merge
      exact ⟨_, merge, read_merged_spec specRead tidy⟩
  · have merge := atKey "status"
    rw [get?_changes_other before after (by decide) (by decide)] at merge
    exact (Field.of?_congr merge).trans statusRead

theorem read_merged {subnets : List Subnet} {annotations : Option (Dictionary String)}
    (isAfter : after = (before.withSubnets subnets).withAnnotations annotations)
    (canonical : (Json.object entries).canonical = .object entries)
    (reads : Cluster.read (.object entries) = some before)
    (tidy : ∀ subnet ∈ subnets, subnet.IsTidy)
    (patched : between? before after = some patch) :
    ∃ merged, Cluster.read ((Json.object entries).mergePatch patch) =
        some ((before.withSubnets subnets).withAnnotations merged) ∧
      merged.getD ∅ = annotations.getD ∅ := by
  rcases Cluster.read_object_eq_some_iff.mp reads with ⟨⟨metadata, metadataFound, -⟩, -, -⟩
  apply read_merged_of_ordered isAfter _ reads tidy patched
  rw [Json.under_of_get? metadataFound]
  exact ordered_annotations (Json.canonical_of_get? canonical metadataFound)

/-- What a patch may touch. -/
def touched : List (List String) :=
  [["metadata", "annotations"], ["metadata", "resourceVersion"], ["spec", "networkSpec", "subnets"]]

/-- The path neither leads to something that a patch may touch nor comes from there. -/
def IsUntouched (path : List String) : Prop :=
  ∀ other ∈ touched, ¬ path <+: other ∧ ¬ other <+: path

instance (path : List String) : Decidable (IsUntouched path) :=
  inferInstanceAs (Decidable (∀ other ∈ touched, _ ∧ _))

theorem metadataChanges_spares {path : List String} (untouched : IsUntouched ("metadata" :: path)) :
    (Json.object (metadataChanges before after)).Spares path := by
  have notAnnotations := untouched ["metadata", "annotations"] (by simp [touched])
  have notVersion := untouched ["metadata", "resourceVersion"] (by simp [touched])
  cases path with
  | nil => simp at notAnnotations
  | cons second more =>
      apply Json.spares_object (distinct_metadataChanges before after)
      intro change found
      rw [get?_metadataChanges_other] at found
      · cases found
      · rintro rfl
        simp at notAnnotations
      · rintro rfl
        simp at notVersion

theorem specChange_spares {subnets : List Subnet} {path : List String}
    (untouched : IsUntouched ("spec" :: path)) : (specChange subnets).Spares path := by
  have notSubnets := untouched ["spec", "networkSpec", "subnets"] (by simp [touched])
  cases path with
  | nil => simp at notSubnets
  | cons second more =>
      apply Json.spares_object (by simp [Entries.Distinct])
      intro change found
      rw [Entries.get?_cons] at found
      split at found
      · next isNetwork =>
          cases found
          subst isNetwork
          cases more with
          | nil => simp at notSubnets
          | cons third rest =>
              apply Json.spares_object (by simp [Entries.Distinct])
              intro change found
              rw [Entries.get?_cons] at found
              split at found
              · next isSubnets =>
                  subst isSubnets
                  simp at notSubnets
              · cases found
      · cases found

/-- A patch mentions nothing but what it may touch. -/
theorem changes_spares {path : List String} (untouched : IsUntouched path) :
    (Json.object (changes before after)).Spares path := by
  cases path with
  | nil =>
      have notAnnotations := untouched ["metadata", "annotations"] (by simp [touched])
      exact absurd List.nil_prefix notAnnotations.1
  | cons first more =>
      apply Json.spares_object (distinct_changes before after)
      intro change found
      by_cases isMetadata : first = "metadata"
      · subst isMetadata
        rw [get?_changes_metadata] at found
        cases found
        exact metadataChanges_spares untouched
      · by_cases isSpec : first = "spec"
        · subst isSpec
          rw [get?_changes_spec] at found
          split at found
          · cases found
          · cases found
            exact specChange_spares untouched
        · rw [get?_changes_other before after isMetadata isSpec] at found
          cases found

/-- A patch does not mention an annotation that is the same in both. -/
theorem changes_spares_unchanged {key : String}
    (same : before.annotation? key = after.annotation? key) :
    (Json.object (changes before after)).Spares ["metadata", "annotations", key] := by
  have held (cluster : Cluster) :
      (cluster.metadata.annotations.getD ∅).get? key = cluster.annotation? key := by
    unfold Cluster.annotation?
    cases cluster.metadata.annotations <;> rfl
  apply Json.spares_object (distinct_changes before after)
  intro change found
  rw [get?_changes_metadata] at found
  cases found
  apply Json.spares_object (distinct_metadataChanges before after)
  intro change found
  rw [get?_metadataChanges_annotations] at found
  split at found
  · cases found
  · cases found
    apply Json.spares_object (Entries.ordered_order _).distinct
    intro change found
    rw [annotations_eq, Entries.get?_order key (distinct_annotationChanges _ _),
      get?_annotationChanges, held, held, if_pos same] at found
    cases found

end Documents

/-! ## The difference -/

/-- The cluster with an empty annotation map in place of an unset one. -/
def filled (cluster : Cluster) : Cluster :=
  cluster.withAnnotations (some (cluster.metadata.annotations.getD ∅))

/-- Take a stored document, which is an object whose keys are in order, and a cluster that differs
from the one that is read from it in annotations and subnets. A patch makes a document from which
the changed cluster is read, an unset annotation map counted as an empty one, and changes nothing
else in the document. There is no patch exactly if nothing differs, and then the document is right
as it is. -/
theorem between?_correct {entries : Entries Json} {before after : Cluster}
    (canonical : (Json.object entries).canonical = .object entries)
    (reads : Cluster.read (.object entries) = some before) (subnets : List Subnet)
    (annotations : Option (Dictionary String))
    (isAfter : after = (before.withSubnets subnets).withAnnotations annotations)
    (tidy : ∀ subnet ∈ subnets, subnet.IsTidy) :
    (∀ patch, between? before after = some patch →
      (∃ merged, Cluster.read ((Json.object entries).mergePatch patch) = some merged ∧
        filled merged = filled after) ∧
      (∀ path, IsUntouched path →
        ((Json.object entries).mergePatch patch).at? path = (Json.object entries).at? path) ∧
      (∀ key, before.annotation? key = after.annotation? key →
        ((Json.object entries).mergePatch patch).at? ["metadata", "annotations", key] =
          (Json.object entries).at? ["metadata", "annotations", key])) ∧
    (between? before after = none ↔
      before.metadata.annotations.getD ∅ = after.metadata.annotations.getD ∅ ∧
        before.subnets = after.subnets) ∧
    (between? before after = none → filled before = filled after) := by
  refine ⟨?_, between?_eq_none_iff, ?_⟩
  · intro patch patched
    rcases read_merged isAfter canonical reads tidy patched with ⟨merged, mergedRead, same⟩
    rw [eq_of_between? patched] at mergedRead ⊢
    refine ⟨⟨_, mergedRead, ?_⟩, ?_, ?_⟩
    · rw [isAfter]
      simp only [filled, Cluster.withAnnotations, same]
    · exact fun path untouched => Json.at?_mergePatch (changes_spares untouched) _
    · exact fun key unchanged => Json.at?_mergePatch (changes_spares_unchanged unchanged) _
  · intro nothing
    rcases between?_eq_none_iff.mp nothing with ⟨sameAnnotations, sameSubnets⟩
    subst isAfter
    have unchanged : before.withSubnets subnets = before := by
      have alreadyThere : subnets = before.subnets := sameSubnets.symm
      rw [alreadyThere]
      rfl
    rw [unchanged] at sameAnnotations ⊢
    simp only [filled, sameAnnotations]
    rfl

namespace Sample

/-- The document of a cluster with two annotations and a subnet, and with a label that is none of
the operator's business. -/
def entries : Entries Json :=
  [("kind", .string "AzureCluster"),
    ("metadata", .object
      [("annotations", .object [("keep", .string "1"), ("leave", .string "2")]),
        ("labels", .object [("owner", .string "them")]), ("name", .string "red"),
        ("resourceVersion", .string "42")]),
    ("spec", .object
      [("networkSpec", .object
        [("subnets", .array [.object [("cidr", .null), ("name", .string "nodes")]])])])]

def before : Cluster :=
  { metadata :=
      { name := some "red", resourceVersion := some "42",
        annotations := some (.ofEntries [("keep", "1"), ("leave", "2")]),
        labels := some (.ofEntries [("owner", "them")]) },
    spec :=
      { network := { subnets := [{ name := "nodes", extra := .ofEntries [("cidr", .null)] }] } } }

def subnets : List Subnet :=
  [{ name := "nodes", endpoints := [{ name := "api" }], extra := .ofEntries [("cidr", .null)] }]

def after : Cluster :=
  (before.withSubnets subnets).withAnnotations (some (.ofEntries [("keep", "1")]))

end Sample

open Sample in
/-- One annotation goes, an endpoint comes, and the label stays. -/
theorem between?_correct_sample :
    ∃ patch, between? before after = some patch ∧
      (∃ merged, Cluster.read ((Json.object entries).mergePatch patch) = some merged ∧
        filled merged = filled after) ∧
      ((Json.object entries).mergePatch patch).at? ["metadata", "labels", "owner"] =
        some (.string "them") ∧
      ((Json.object entries).mergePatch patch).at? ["metadata", "annotations", "keep"] =
        some (.string "1") := by
  rcases between?_correct (by decide +kernel : (Json.object entries).canonical = .object entries)
    (by decide +kernel : Cluster.read (.object entries) = some before) subnets
    (some (.ofEntries [("keep", "1")])) rfl (by decide +kernel) with ⟨correct, noneIff, -⟩
  have something : between? before after ≠ none := by
    intro nothing
    exact absurd (noneIff.mp nothing).2 (by decide +kernel)
  rcases Option.ne_none_iff_exists'.mp something with ⟨patch, patched⟩
  rcases correct patch patched with ⟨merged, untouched, unchanged⟩
  refine ⟨patch, patched, merged, ?_, ?_⟩
  · exact (untouched _ (by decide +kernel)).trans (by decide +kernel)
  · exact (unchanged "keep" (by decide +kernel)).trans (by decide +kernel)

end ClusterLinks.Patch
