import ClusterLinks.Cluster.Document

/-!
# The difference between two states of a cluster

A change is sent as a merge patch that holds what the operator may change and nothing else: the
annotations that differ, with `null` for those that are gone, and the whole subnet list if it
differs. The patch is pinned to the version that was read, so that it is refused if somebody
wrote in between.
-/

namespace ClusterLinks.Patch

/-- The annotations that are new or have a new value. -/
def changedAnnotations (before after : Dictionary String) : Entries Json :=
  (after.entries.filter fun entry => before.get? entry.1 ≠ some entry.2).map fun entry =>
    (entry.1, .string entry.2)

/-- The annotations that are gone, as `null`. -/
def removedAnnotations (before after : Dictionary String) : Entries Json :=
  (before.entries.filter fun entry => !after.contains entry.1).map fun entry => (entry.1, .null)

def annotations (before after : Cluster) : Entries Json :=
  let old := before.metadata.annotations.getD ∅
  let new := after.metadata.annotations.getD ∅
  changedAnnotations old new ++ removedAnnotations old new

/-- The subnet list, if it differs. -/
def spec (before after : Cluster) : Entries Json :=
  if before.subnets = after.subnets then []
  else
    [("spec",
      .object [("networkSpec", .object [("subnets", (Codec.list Subnet.codec).write after.subnets)])])]

/-- The version that the change was made to. -/
def version (before : Cluster) : Entries Json :=
  match before.metadata.resourceVersion with
  | some version => [("resourceVersion", .string version)]
  | none => []

/-- The patch that makes `after` of `before`, none if they agree in what may be changed. -/
def between? (before after : Cluster) : Option Json :=
  let annotations := annotations before after
  let spec := spec before after
  if annotations.isEmpty && spec.isEmpty then none
  else
    let annotations :=
      if annotations.isEmpty then [] else [("annotations", Json.ofEntries annotations)]
    some (.object (("metadata", .object (annotations ++ version before)) :: spec))

/-- The patch that sets the finalizers. -/
def finalizers (finalizers : List String) : Json :=
  .object
    [("metadata", .object [("finalizers", (Codec.list Codec.string).write finalizers)])]

end ClusterLinks.Patch
