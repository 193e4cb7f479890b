import ClusterLinks.Store
import ClusterLinks.Text.Quoted

/-!
# A cluster being worked on

A scope remembers the cluster as it was loaded beside the cluster as it is now. Closing it keeps
the difference, if there is one.
-/

namespace ClusterLinks

structure ClusterScope where
  loaded : Cluster
  current : Cluster
  deriving DecidableEq

namespace ClusterScope

variable {World : Type}

def ofCluster (cluster : Cluster) : ClusterScope := ⟨cluster, cluster⟩

def load (store : ClusterStore World) (key : ObjectKey) : Action World (Option ClusterScope) := do
  let cluster? ← store.get key
  pure (cluster?.map ofCluster)

def isDirty (scope : ClusterScope) : Bool :=
  scope.loaded ≠ scope.current

def close (store : ClusterStore World) (scope : ClusterScope) : Action World Unit :=
  if scope.isDirty then store.persist scope.loaded scope.current else pure ()

/-- The scope for people to read. -/
def describe (scope : ClusterScope) : String :=
  let key := scope.current.key
  "ClusterScope \x7b cluster: ObjectKey \x7b namespace: " ++ Text.quoted key.space ++ ", name: " ++
    Text.quoted key.name ++ " \x7d, dirty: " ++ (if scope.isDirty then "true" else "false") ++ " \x7d"

end ClusterScope

/-- What a run comes to: a failure that cannot be waited out, else the first change that could
not be kept, else the pass itself. -/
def passOutcome (pass : Except Error Unit) (flushes : List (Except Error Unit)) :
    Except Error Unit :=
  match pass with
  | .error error =>
      if error.isRetryable then flushes.foldr (fun flush rest => flush.bind fun _ => rest) pass
      else pass
  | .ok _ => flushes.foldr (fun flush rest => flush.bind fun _ => rest) pass

end ClusterLinks
