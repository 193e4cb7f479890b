import ClusterLinks.Kubernetes.Request
import ClusterLinks.Proofs.ResourceId.Groups
import Mathlib.Data.List.TakeWhile

/-!
# Names in paths

A name that Kubernetes allows can stand in the path of a request as it is. So every object with such
a key can be asked for, with or without a query, and objects with different keys have different
paths.
-/

namespace ClusterLinks

/-- Lower-case letters, digits, `-` and `.` are what names are made of. -/
def isNameCharacter (c : Char) : Bool :=
  c.isLower || c.isDigit || c = '-' || c = '.'

/-- A name of such characters that is not too long. -/
structure IsObjectName (limit : Nat) (text : String) : Prop where
  nonempty : text ≠ ""
  short : text.utf8ByteSize ≤ limit
  characters : ∀ c ∈ text.toList, isNameCharacter c = true

instance (limit : Nat) (text : String) : Decidable (IsObjectName limit text) :=
  decidable_of_iff
    (text ≠ "" ∧ text.utf8ByteSize ≤ limit ∧ text.toList.all isNameCharacter = true)
    ⟨fun ⟨nonempty, short, characters⟩ => ⟨nonempty, short, List.all_eq_true.mp characters⟩,
      fun isName =>
        ⟨isName.nonempty, isName.short, List.all_eq_true.mpr isName.characters⟩⟩

/-- Namespaces are labels, and the names of objects are subdomains. -/
structure ObjectKey.IsValid (key : ObjectKey) : Prop where
  space : IsObjectName 63 key.space
  name : IsObjectName 253 key.name

instance (key : ObjectKey) : Decidable key.IsValid :=
  decidable_of_iff (IsObjectName 63 key.space ∧ IsObjectName 253 key.name)
    ⟨fun ⟨space, name⟩ => ⟨space, name⟩, fun valid => ⟨valid.space, valid.name⟩⟩

theorem isPathCharacter_of_isNameCharacter {c : Char} (isName : isNameCharacter c = true) :
    RequestTarget.isPathCharacter c = true := by
  have low : 0x20 < c.toNat ∧ c.toNat ≠ 0x7F := by
    simp only [isNameCharacter, Bool.or_eq_true, decide_eq_true_eq] at isName
    obtain ((lower | digit) | rfl) | rfl := isName
    · have range : (decide ('a'.val ≤ c.val) && decide (c.val ≤ 'z'.val)) = true := lower
      simp only [Bool.and_eq_true, decide_eq_true_eq, UInt32.le_iff_toNat_le] at range
      have bounds : 97 ≤ c.toNat ∧ c.toNat ≤ 122 := range
      omega
    · have range : 48 ≤ c.toNat ∧ c.toNat ≤ 57 := by
        simpa [Char.isDigit, UInt32.le_iff_toNat_le] using digit
      omega
    · decide
    · decide
  have foreign : "#<>?\x60".toList.all (!isNameCharacter ·) = true := by decide
  have apart : c ∉ "#<>?\x60".toList := by
    intro member
    have isForeign := List.all_eq_true.mp foreign c member
    rw [isName] at isForeign
    cases isForeign
  simp only [RequestTarget.isPathCharacter, low, List.contains_iff_mem, apart, decide_true,
    Bool.and_eq_true, Bool.not_eq_true', and_self, ← Bool.not_eq_true, not_false_eq_true,
    ne_eq]

theorem ne_slash_of_isNameCharacter {c : Char} (isName : isNameCharacter c = true) : c ≠ '/' := by
  rintro rfl
  revert isName
  decide

namespace RequestTarget

/-- A path can be asked for as it is. -/
theorem readPath?_of_path {path : List Char} (plain : ∀ c ∈ path, isPathCharacter c = true) :
    readPath? path = some (String.ofList path, none) := by
  have all : path.takeWhile isPathCharacter = path := List.takeWhile_eq_self_iff.mpr plain
  have nothing : path.dropWhile isPathCharacter = [] := List.dropWhile_eq_nil_iff.mpr plain
  rw [readPath?, all, nothing]

/-- So can a path with a query. -/
theorem readPath?_of_query {path query : List Char} (plain : ∀ c ∈ path, isPathCharacter c = true)
    (plain' : ∀ c ∈ query, isQueryCharacter c = true) :
    readPath? (path ++ '?' :: query) = some (String.ofList path, some (String.ofList query)) := by
  have mark : isPathCharacter '?' = false := by decide
  have first : (path ++ '?' :: query).takeWhile isPathCharacter = path := by
    rw [List.takeWhile_append_of_pos plain, List.takeWhile_cons_of_neg (by simp [mark]),
      List.append_nil]
  have rest : (path ++ '?' :: query).dropWhile isPathCharacter = '?' :: query := by
    rw [List.dropWhile_append_of_pos plain, List.dropWhile_cons_of_neg (by simp [mark])]
  have all : query.takeWhile isQueryCharacter = query := List.takeWhile_eq_self_iff.mpr plain'
  have nothing : query.dropWhile isQueryCharacter = [] := List.dropWhile_eq_nil_iff.mpr plain'
  simp only [readPath?, first, rest, all, nothing]

end RequestTarget

namespace ObjectKey

variable {key other : ObjectKey}

/-- What is in front of the namespace in the path of a cluster. -/
def clusterRoot : List Char :=
  "/apis/infrastructure.cluster.x-k8s.io/v1beta1/namespaces/".toList

theorem clusterPath_eq (key : ObjectKey) :
    ObjectKind.cluster.path key = "/apis/infrastructure.cluster.x-k8s.io/v1beta1/namespaces/" ++
      key.space ++ "/azureclusters" ++ "/" ++ key.name := rfl

theorem toList_clusterPath (key : ObjectKey) :
    (ObjectKind.cluster.path key).toList =
      clusterRoot ++ (key.space.toList ++
        ('/' :: "azureclusters".toList ++ ('/' :: key.name.toList))) := by
  have collection : "/azureclusters".toList = '/' :: "azureclusters".toList := by decide
  have slash : "/".toList = ['/'] := by decide
  rw [clusterPath_eq, String.toList_append, String.toList_append, String.toList_append,
    String.toList_append, collection, slash, List.append_assoc, List.append_assoc,
    List.append_assoc, List.singleton_append]
  rfl

theorem IsValid.isSegment_space (valid : key.IsValid) : ResourceId.IsSegment key.space :=
  fun slash => ne_slash_of_isNameCharacter (valid.space.characters _ slash) rfl

/-- Clusters with different keys have different paths. -/
theorem IsValid.clusterPath_inj (valid : key.IsValid) (valid' : other.IsValid)
    (same : ObjectKind.cluster.path key = ObjectKind.cluster.path other) : key = other := by
  have sameText := congrArg String.toList same
  rw [toList_clusterPath, toList_clusterPath, List.append_cancel_left_eq] at sameText
  have ends (name : String) :
      ResourceId.AtSegmentEnd ('/' :: "azureclusters".toList ++ ('/' :: name.toList)) :=
    .inr ⟨_, rfl⟩
  obtain ⟨spaces, names⟩ := ResourceId.segment_unique valid.isSegment_space valid'.isSegment_space
    (ends key.name) (ends other.name) sameText
  rw [List.append_cancel_left_eq, List.cons_inj_right] at names
  cases key
  cases other
  rw [ObjectKey.mk.injEq]
  exact ⟨String.toList_inj.mp spaces, String.toList_inj.mp names⟩

theorem IsValid.isPathCharacter (valid : key.IsValid) :
    ∀ c ∈ (ObjectKind.cluster.path key).toList, RequestTarget.isPathCharacter c = true := by
  have root : clusterRoot.all RequestTarget.isPathCharacter = true := by decide +kernel
  have middle : ('/' :: "azureclusters".toList).all RequestTarget.isPathCharacter = true := by
    decide +kernel
  intro c member
  rw [toList_clusterPath] at member
  rw [List.mem_append, List.mem_append, List.mem_append] at member
  obtain inRoot | inSpace | inMiddle | inName := member
  · exact List.all_eq_true.mp root c inRoot
  · exact isPathCharacter_of_isNameCharacter (valid.space.characters c inSpace)
  · exact List.all_eq_true.mp middle c inMiddle
  · obtain rfl | inName := List.mem_cons.mp inName
    · decide
    · exact isPathCharacter_of_isNameCharacter (valid.name.characters c inName)

theorem IsValid.utf8ByteSize_clusterPath (valid : key.IsValid) :
    (ObjectKind.cluster.path key).utf8ByteSize ≤ 400 := by
  have space := valid.space.short
  have name := valid.name.short
  have fixed : "/apis/infrastructure.cluster.x-k8s.io/v1beta1/namespaces/".utf8ByteSize = 57 ∧
      "/azureclusters".utf8ByteSize = 14 ∧ "/".utf8ByteSize = 1 := by
    decide
  rw [clusterPath_eq, String.utf8ByteSize_append, String.utf8ByteSize_append,
    String.utf8ByteSize_append, String.utf8ByteSize_append, fixed.1, fixed.2.1, fixed.2.2]
  omega

theorem exists_clusterPath (key : ObjectKey) :
    ∃ rest, (ObjectKind.cluster.path key).toList = '/' :: rest := by
  have root : clusterRoot.head? = some '/' := by decide +kernel
  obtain ⟨rest, isRoot⟩ := List.head?_eq_some_iff.mp root
  rw [toList_clusterPath, isRoot]
  exact ⟨_, rfl⟩

/-- A request can be made for every cluster with a valid key, and it leads to the path of the
cluster. -/
theorem IsValid.target?_of_text (valid : key.IsValid) {query : String} {target : RequestTarget}
    (short : query.utf8ByteSize ≤ 400)
    (reads : RequestTarget.readPath? ((ObjectKind.cluster.path key).toList ++ query.toList) =
      some (target.path, target.query))
    (relative : target.scheme = none ∧ target.authority = none) :
    ApiRequest.target? .cluster key query = some target := by
  have path := valid.utf8ByteSize_clusterPath
  have fits : ¬ RequestTarget.maxLength < (ObjectKind.cluster.path key ++ query).utf8ByteSize := by
    rw [String.utf8ByteSize_append, RequestTarget.maxLength]
    omega
  obtain ⟨rest, begins⟩ := exists_clusterPath key
  rw [begins] at reads
  rw [ApiRequest.target?, if_neg valid.name.nonempty, RequestTarget.ofText?, if_neg fits,
    String.toList_append, begins]
  cases target
  simp_all

/-- Where a cluster is asked for. -/
def readTarget (key : ObjectKey) : RequestTarget where
  path := ObjectKind.cluster.path key

/-- Where a cluster is changed. -/
def patchTarget (key : ObjectKey) : RequestTarget where
  path := ObjectKind.cluster.path key
  query := some ("&fieldManager=" ++ Conventions.fieldManager)

theorem IsValid.get? (valid : key.IsValid) :
    ApiRequest.get? .cluster key = some (.get key.readTarget) := by
  have made : ApiRequest.target? .cluster key "" = some key.readTarget := by
    apply valid.target?_of_text (by decide) _ ⟨rfl, rfl⟩
    rw [String.toList_empty, List.append_nil,
      RequestTarget.readPath?_of_path valid.isPathCharacter, String.ofList_toList]
    rfl
  rw [ApiRequest.get?, made, Option.map_some]

theorem IsValid.mergePatch? (valid : key.IsValid) (patch : Json) :
    ApiRequest.mergePatch? .cluster key Conventions.fieldManager patch =
      some (.mergePatch key.patchTarget patch) := by
  have query : ("?&fieldManager=" ++ Conventions.fieldManager).toList =
      '?' :: ("&fieldManager=" ++ Conventions.fieldManager).toList := by
    decide +kernel
  have plain : ("&fieldManager=" ++ Conventions.fieldManager).toList.all
      RequestTarget.isQueryCharacter = true := by
    decide +kernel
  have made : ApiRequest.target? .cluster key ("?&fieldManager=" ++ Conventions.fieldManager) =
      some key.patchTarget := by
    apply valid.target?_of_text (by decide +kernel) _ ⟨rfl, rfl⟩
    rw [query,
      RequestTarget.readPath?_of_query valid.isPathCharacter (List.all_eq_true.mp plain),
      String.ofList_toList, String.ofList_toList]
    rfl
  rw [ApiRequest.mergePatch?, made, Option.map_some]

end ObjectKey

end ClusterLinks
