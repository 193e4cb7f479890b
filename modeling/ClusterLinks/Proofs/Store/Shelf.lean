import ClusterLinks.Store.Memory

/-!
# Clusters by key

What a store is for: every cluster is found under its own key, and a call changes what is under
one key. A shelf has nothing else to it, no order and no text of keys, so it says what the calls
of any store should do.
-/

namespace ClusterLinks

namespace Cluster

variable {finalizer : String} {cluster : Cluster}

@[simp] theorem key_withSubnets (cluster : Cluster) (subnets : List Subnet) :
    (cluster.withSubnets subnets).key = cluster.key := rfl

@[simp] theorem key_withAnnotations (cluster : Cluster)
    (annotations : Option (Dictionary String)) :
    (cluster.withAnnotations annotations).key = cluster.key := rfl

@[simp] theorem key_addFinalizer (finalizer : String) (cluster : Cluster) :
    (cluster.addFinalizer finalizer).key = cluster.key := by
  unfold addFinalizer
  split <;> rfl

@[simp] theorem key_removeFinalizer (finalizer : String) (cluster : Cluster) :
    (cluster.removeFinalizer finalizer).key = cluster.key := rfl

theorem addFinalizer_of_hasFinalizer (has : cluster.hasFinalizer finalizer = true) :
    cluster.addFinalizer finalizer = cluster := by
  rw [addFinalizer, if_pos has]

@[simp] theorem hasFinalizer_addFinalizer (finalizer : String) (cluster : Cluster) :
    (cluster.addFinalizer finalizer).hasFinalizer finalizer = true := by
  unfold addFinalizer
  split
  · assumption
  · simp [hasFinalizer, withFinalizers]

@[simp] theorem removeFinalizer_removeFinalizer (finalizer : String) (cluster : Cluster) :
    (cluster.removeFinalizer finalizer).removeFinalizer finalizer =
      cluster.removeFinalizer finalizer := by
  unfold removeFinalizer withFinalizers
  cases cluster.metadata.finalizers with
  | none => rfl
  | some finalizers => simp [List.filter_filter]

end Cluster

/-- Clusters, each under its own key. -/
structure Shelf where
  get? : ObjectKey → Option Cluster
  keyed : ∀ {key cluster}, get? key = some cluster → cluster.key = key

namespace Shelf

variable {shelf : Shelf} {key : ObjectKey} {cluster other : Cluster}

@[ext] theorem ext {left right : Shelf} (same : ∀ key, left.get? key = right.get? key) :
    left = right := by
  rcases left with ⟨get?, _⟩
  rcases right with ⟨get?', _⟩
  rw [Shelf.mk.injEq]
  exact funext same

def empty : Shelf where
  get? _ := none
  keyed found := nomatch found

def put (shelf : Shelf) (cluster : Cluster) : Shelf where
  get? key := if cluster.key = key then some cluster else shelf.get? key
  keyed {key found} there := by
    split at there
    · next same => rwa [← Option.some.inj there]
    · exact shelf.keyed there

/-- Changes the cluster under a key, if there is one. -/
def change (shelf : Shelf) (key : ObjectKey) (change : Cluster → Cluster) : Shelf :=
  match shelf.get? key with
  | some cluster => shelf.put (change cluster)
  | none => shelf

theorem get?_put (shelf : Shelf) (cluster : Cluster) (key : ObjectKey) :
    (shelf.put cluster).get? key = if cluster.key = key then some cluster else shelf.get? key :=
  rfl

theorem get?_put_self (shelf : Shelf) (keyed : cluster.key = key) :
    (shelf.put cluster).get? key = some cluster := by
  rw [get?_put, if_pos keyed]

theorem get?_put_of_ne (shelf : Shelf) (apart : cluster.key ≠ key) :
    (shelf.put cluster).get? key = shelf.get? key := by
  rw [get?_put, if_neg apart]

/-- Of two clusters put under one key the later one stays. -/
theorem put_put (shelf : Shelf) (sameKey : other.key = cluster.key) :
    (shelf.put other).put cluster = shelf.put cluster := by
  ext1 key
  simp only [get?_put, sameKey]
  split <;> rfl

theorem put_comm (shelf : Shelf) (apart : cluster.key ≠ other.key) :
    (shelf.put cluster).put other = (shelf.put other).put cluster := by
  ext1 key
  simp only [get?_put]
  by_cases first : cluster.key = key
  · rw [if_pos first, if_pos first, if_neg]
    rw [← first]
    exact apart.symm
  · rw [if_neg first, if_neg first]

/-- Of two pairs of clusters put under the same two keys the later one stays. -/
theorem put_put_put_put (shelf : Shelf) {cluster' other' : Cluster}
    (sameKey : cluster'.key = cluster.key) (sameKey' : other'.key = other.key)
    (apart : cluster.key ≠ other.key) :
    (((shelf.put cluster').put other').put cluster).put other = (shelf.put cluster).put other := by
  have swap : ((shelf.put cluster').put other').put cluster =
      ((shelf.put cluster').put cluster).put other' :=
    put_comm _ (by rw [sameKey']; exact apart.symm)
  rw [swap, put_put _ sameKey, put_put _ sameKey']

/-- Putting in what is there already changes nothing. -/
theorem put_of_get? (there : shelf.get? key = some cluster) : shelf.put cluster = shelf := by
  have keyed := shelf.keyed there
  ext1 other
  rw [get?_put]
  split
  · next same => rw [← same, keyed, there]
  · rfl

theorem change_of_get? (there : shelf.get? key = some cluster) (change : Cluster → Cluster) :
    shelf.change key change = shelf.put (change cluster) := by
  simp only [Shelf.change, there]

theorem change_of_absent (absent : shelf.get? key = none) (change : Cluster → Cluster) :
    shelf.change key change = shelf := by
  simp only [Shelf.change, absent]

theorem get?_change_self {change : Cluster → Cluster}
    (keeps : ∀ cluster, (change cluster).key = cluster.key) :
    (shelf.change key change).get? key = (shelf.get? key).map change := by
  cases there : shelf.get? key with
  | none => rw [change_of_absent there, there]; rfl
  | some cluster =>
      rw [change_of_get? there, get?_put_self]
      · rfl
      · rw [keeps, shelf.keyed there]

theorem get?_change_of_ne {elsewhere : ObjectKey} {change : Cluster → Cluster}
    (keeps : ∀ cluster, (change cluster).key = cluster.key) (apart : key ≠ elsewhere) :
    (shelf.change key change).get? elsewhere = shelf.get? elsewhere := by
  cases there : shelf.get? key with
  | none => rw [change_of_absent there]
  | some cluster =>
      rw [change_of_get? there, get?_put_of_ne]
      rwa [keeps, shelf.keyed there]

/-- A store that is a shelf and nothing else. No call fails. -/
def store : ClusterStore Shelf where
  get key := .inspect (·.get? key)
  persist _ after := .modify (·.put after)
  addFinalizer key finalizer := .modify (·.change key (·.addFinalizer finalizer))
  removeFinalizer key finalizer := .modify (·.change key (·.removeFinalizer finalizer))

end Shelf

end ClusterLinks
