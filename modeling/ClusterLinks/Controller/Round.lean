import ClusterLinks.Controller

/-!
# Rounds

A round runs the controller for one cluster after the other and counts how the runs ended. A run
that fails leaves the others alone.
-/

namespace ClusterLinks

/-- One run, counted under the name of its cluster. -/
structure RunCount where
  cluster : String
  outcome : Outcome
  deriving DecidableEq

def RunCount.label (count : RunCount) : String :=
  count.cluster ++ "/" ++ count.outcome.label

namespace Controller

variable {World : Type}

/-- How a run is counted. -/
def countOf (cluster : Cluster) (result : Except Error (NextLook × Outcome)) : RunCount :=
  ⟨cluster.displayName, outcomeOf result⟩

/-- Runs the controller for each cluster. -/
def round (settings : ControllerSettings) (store : ClusterStore World)
    (clients : ClientFactory World) : List Cluster → World → List RunCount × World
  | [], world => ([], world)
  | cluster :: rest, world =>
      let (result, world) := reconcile settings store clients cluster world
      let (counts, world) := round settings store clients rest world
      (countOf cluster result :: counts, world)

end Controller

end ClusterLinks
