import ClusterLinks.Link.Directory
import ClusterLinks.Proofs.Dictionary.Lookup

/-!
# Addresses on record

Recording an address touches one annotation and nothing else of a link directory. Of a row of
addresses recorded for one direction only the last one counts.
-/

namespace ClusterLinks

/-- The cluster with an address on record, if there is one. -/
def Cluster.recording (direction : Direction) (address? : Option IpAddress) (cluster : Cluster) :
    Cluster :=
  match address? with
  | none => cluster
  | some address =>
      cluster.withAnnotations (some
        ((cluster.metadata.annotations.getD ∅).insert direction.annotation address.toText))

namespace LinkDirectory

variable (direction : Direction) (address : IpAddress) (addresses : List IpAddress)
  (directory : LinkDirectory)

@[simp] theorem identity_record :
    (directory.record direction address).identity = directory.identity := by
  unfold record
  split <;> rfl

@[simp] theorem links_record : (directory.record direction address).links = directory.links := by
  unfold record
  split <;> rfl

@[simp] theorem conditions_record :
    (directory.record direction address).conditions = directory.conditions := by
  unfold record
  split <;> rfl

@[simp] theorem recorded?_record :
    (directory.record direction address).recorded? direction = some address.toText := by
  unfold record
  split
  · assumption
  · simp [recorded?, Dictionary.get?_insert]

/-- The address that is recorded last stays. -/
@[simp] theorem record_record (first : IpAddress) :
    (directory.record direction first).record direction address =
      directory.record direction address := by
  unfold record
  by_cases firstKnown : directory.recorded? direction = some first.toText
  · simp [firstKnown]
  · simp only [firstKnown, ↓reduceIte]
    have firstThere : recorded? { directory with
        annotations := some ((directory.annotations.getD ∅).insert direction.annotation
          first.toText) } direction = some first.toText := by
      simp [recorded?, Dictionary.get?_insert]
    rw [firstThere]
    by_cases same : first.toText = address.toText
    · rw [same] at firstKnown
      simp [same, firstKnown]
    · by_cases known : directory.recorded? direction = some address.toText
      · rcases Option.bind_eq_some_iff.mp known with ⟨annotations, present, found⟩
        simp only [Option.some.injEq, same, ↓reduceIte, known, present, Option.getD_some,
          Dictionary.insert_insert, Dictionary.insert_of_get? found]
        rw [← present]
      · simp [same, known]

/-- Records addresses for one direction, one after the other. -/
def recordAll (direction : Direction) (addresses : List IpAddress) (directory : LinkDirectory) :
    LinkDirectory :=
  addresses.foldl (fun directory address => directory.record direction address) directory

/-- The last address is the one that counts. -/
theorem recordAll_eq :
    recordAll direction addresses directory =
      match addresses.getLast? with
      | some address => directory.record direction address
      | none => directory := by
  induction addresses generalizing directory with
  | nil => rfl
  | cons first rest ih =>
      change recordAll direction rest (directory.record direction first) = _
      rw [ih, List.getLast?_cons]
      cases rest.getLast? <;> simp

@[simp] theorem identity_recordAll :
    (recordAll direction addresses directory).identity = directory.identity := by
  rw [recordAll_eq]
  split <;> simp

@[simp] theorem links_recordAll :
    (recordAll direction addresses directory).links = directory.links := by
  rw [recordAll_eq]
  split <;> simp

@[simp] theorem conditions_recordAll :
    (recordAll direction addresses directory).conditions = directory.conditions := by
  rw [recordAll_eq]
  split <;> simp

/-- Recording the same addresses again changes nothing. -/
@[simp] theorem recordAll_recordAll :
    recordAll direction addresses (recordAll direction addresses directory) =
      recordAll direction addresses directory := by
  rw [recordAll_eq direction addresses (recordAll _ _ _), recordAll_eq]
  cases addresses.getLast? <;> simp

theorem recordAll_append (first second : List IpAddress) :
    recordAll direction (first ++ second) directory =
      recordAll direction second (recordAll direction first directory) :=
  List.foldl_append

/-- Of two rows of addresses the second one counts, if there is any address in it. -/
theorem recordAll_append_of_ne_nil (first : List IpAddress) {second : List IpAddress}
    (some : second ≠ []) :
    recordAll direction (first ++ second) directory = recordAll direction second directory := by
  rw [recordAll_eq, recordAll_eq, List.getLast?_append_of_ne_nil _ some]

/-- What is on record already can be recorded without changing anything. -/
theorem record_of_recorded? {direction address directory}
    (known : recorded? directory direction = some address.toText) :
    directory.record direction address = directory := by
  rw [record, if_pos known]

/-- The two directions have a record each. -/
theorem recorded?_record_of_ne {other : Direction} (apart : other ≠ direction) :
    (directory.record other address).recorded? direction = directory.recorded? direction := by
  have annotationsApart : direction.annotation ≠ other.annotation := by
    cases direction <;> cases other <;> first | exact absurd rfl apart | decide
  unfold record
  split
  · rfl
  · rw [recorded?, recorded?, Option.bind_some, Dictionary.get?_insert, if_neg annotationsApart]
    cases directory.annotations <;> simp

/-- Addresses that are on record stay there while others are recorded for the other direction. -/
theorem recordAll_recordAll_of_ne {direction other : Direction} {addresses directory}
    (known : recordAll direction addresses directory = directory) (apart : other ≠ direction)
    (others : List IpAddress) :
    recordAll direction addresses (recordAll other others directory) =
      recordAll other others directory := by
  rw [recordAll_eq direction] at known ⊢
  cases last : addresses.getLast? with
  | none => rfl
  | some latest =>
      rw [last] at known
      apply record_of_recorded?
      rw [recordAll_eq]
      cases others.getLast? with
      | none => rw [← known, recorded?_record]
      | some address => rw [recorded?_record_of_ne _ _ _ apart, ← known, recorded?_record]

/-! ## Directories of clusters -/

variable {cluster : Cluster} {directory}

theorem ofCluster_eq_ok_iff :
    ofCluster cluster = .ok directory ↔
      ClusterIdentity.ofCluster cluster = .ok directory.identity ∧
        directory.links = cluster.privateLinks ∧ directory.conditions = cluster.conditions ∧
        directory.annotations = cluster.metadata.annotations := by
  rcases directory with ⟨identity, links, conditions, annotations⟩
  unfold ofCluster
  cases ClusterIdentity.ofCluster cluster with
  | error error => simp
  | ok named => simp [eq_comm]

@[simp] theorem ofCluster_withSubnets (cluster : Cluster) (subnets : List Subnet) :
    ofCluster (cluster.withSubnets subnets) = ofCluster cluster := rfl

/-- A cluster with the annotations of a directory that has its links has that directory. -/
theorem ofCluster_withAnnotations {changed : LinkDirectory}
    (found : ofCluster cluster = .ok directory)
    (sameIdentity : changed.identity = directory.identity)
    (sameLinks : changed.links = directory.links)
    (sameConditions : changed.conditions = directory.conditions) :
    ofCluster (cluster.withAnnotations changed.annotations) = .ok changed := by
  rcases ofCluster_eq_ok_iff.mp found with ⟨named, links, conditions, -⟩
  exact ofCluster_eq_ok_iff.mpr
    ⟨sameIdentity ▸ named, sameLinks.trans links, sameConditions.trans conditions, rfl⟩

theorem withAnnotations_annotations (found : ofCluster cluster = .ok directory) :
    cluster.withAnnotations directory.annotations = cluster := by
  rcases ofCluster_eq_ok_iff.mp found with ⟨-, -, -, annotations⟩
  rw [annotations]
  rfl

/-- Recorded addresses come down to the last one. -/
theorem withAnnotations_recordAll (found : ofCluster cluster = .ok directory) :
    cluster.withAnnotations (recordAll direction addresses directory).annotations =
      cluster.recording direction addresses.getLast? := by
  have annotations := (ofCluster_eq_ok_iff.mp found).2.2.2
  rw [recordAll_eq]
  cases addresses.getLast? with
  | none => exact withAnnotations_annotations found
  | some address =>
      rw [Cluster.recording, ← annotations]
      apply congrArg cluster.withAnnotations
      by_cases known : directory.recorded? direction = some address.toText
      · obtain ⟨texts, present, there⟩ := Option.bind_eq_some_iff.mp known
        simp only [record_of_recorded? known, present, Option.getD_some,
          Dictionary.insert_of_get? there]
      · simp only [record, if_neg known]

/-- What leaves the annotations of a cluster alone leaves its directory alone. -/
theorem recordAll_eq_self {direction addresses} (found : ofCluster cluster = .ok directory)
    (kept : cluster.withAnnotations (recordAll direction addresses directory).annotations =
      cluster) :
    recordAll direction addresses directory = directory := by
  have recorded : ofCluster
      (cluster.withAnnotations (recordAll direction addresses directory).annotations) =
        .ok (recordAll direction addresses directory) := by
    apply ofCluster_withAnnotations found <;> simp
  rw [kept, found, Except.ok.injEq] at recorded
  exact recorded.symm

theorem find?_isSome_iff {id : String} :
    (directory.find? id).isSome = true ↔ ∃ link ∈ directory.links, directory.idOf link = id := by
  simp [find?]

end LinkDirectory

end ClusterLinks
