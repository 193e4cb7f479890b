import ClusterLinks.Endpoint.Directory

/-!
# The subnet that hosts endpoints

The subnet of a directory is found from the roles of the subnets alone. Changing the endpoints of
a directory therefore leaves it the directory of the changed cluster, and what a change does to a
cluster is what it does to one list of endpoints.
-/

namespace ClusterLinks

namespace Cluster

/-- The subnet whose endpoints are the endpoints of the cluster: the first one for nodes, or else
the first one. -/
def hostingSubnet? (cluster : Cluster) : Option Subnet :=
  (cluster.subnets.find? (·.isForNodes)).or cluster.subnets.head?

/-- The endpoints of the cluster. -/
def hostedEndpoints (cluster : Cluster) : List PrivateEndpoint :=
  match cluster.hostingSubnet? with
  | some subnet => subnet.endpoints
  | none => []

end Cluster

namespace ClusterIdentity

@[simp] theorem ofCluster_withSubnets (cluster : Cluster) (subnets : List Subnet) :
    ofCluster (cluster.withSubnets subnets) = ofCluster cluster := rfl

@[simp] theorem ofCluster_withAnnotations (cluster : Cluster)
    (annotations : Option (Dictionary String)) :
    ofCluster (cluster.withAnnotations annotations) = ofCluster cluster := rfl

/-- A cluster that can be told by name lives where its specification says. -/
theorem place_of_ofCluster {cluster : Cluster} {identity : ClusterIdentity}
    (named : ofCluster cluster = .ok identity) :
    identity.subscriptionId = cluster.spec.subscriptionId ∧
      identity.resourceGroup = cluster.spec.resourceGroup := by
  unfold ofCluster at named
  split at named
  · simp at named
  · simp at named
  · simp only [Except.ok.injEq] at named
    simp [← named]

end ClusterIdentity

namespace EndpointDirectory

variable {identity : ClusterIdentity} {directory : EndpointDirectory} {cluster : Cluster}

/-- The chosen subnet is the first one for nodes, or the first one if there is none. -/
def IsHosting (directory : EndpointDirectory) : Prop :=
  (directory.subnet.isForNodes = true ∧ ∀ subnet ∈ directory.before, subnet.isForNodes = false) ∨
    (directory.before = [] ∧
      ∀ subnet ∈ directory.subnet :: directory.after, subnet.isForNodes = false)

theorem aroundNodes_eq_some_iff {subnets : List Subnet} :
    aroundNodes identity subnets = some directory ↔
      directory.identity = identity ∧ directory.subnets = subnets ∧
        directory.subnet.isForNodes = true ∧
        ∀ subnet ∈ directory.before, subnet.isForNodes = false := by
  induction subnets generalizing directory with
  | nil => simp [aroundNodes, EndpointDirectory.subnets]
  | cons first rest ih =>
      rcases directory with ⟨owner, before, chosen, after⟩
      cases forNodes : first.isForNodes with
      | true =>
          cases before with
          | nil => simp [aroundNodes, EndpointDirectory.subnets, forNodes]; grind
          | cons head tail => simp [aroundNodes, EndpointDirectory.subnets, forNodes]; grind
      | false =>
          simp only [aroundNodes, forNodes, Bool.false_eq_true, ↓reduceIte, Option.map_eq_some_iff]
          constructor
          · intro around
            rcases around with ⟨inner, found, equal⟩
            rcases ih.mp found with ⟨named, rests, chosenForNodes, others⟩
            cases equal
            refine ⟨named, ?_, chosenForNodes, ?_⟩
            · simpa [EndpointDirectory.subnets] using rests
            · simpa [forNodes] using others
          · intro fits
            rcases fits with ⟨named, wholes, chosenForNodes, others⟩
            cases before with
            | nil =>
                simp only [EndpointDirectory.subnets, List.nil_append, List.cons.injEq] at wholes
                simp [wholes.1, forNodes] at chosenForNodes
            | cons head tail =>
                simp only [EndpointDirectory.subnets, List.cons_append, List.cons.injEq] at wholes
                refine ⟨⟨owner, tail, chosen, after⟩,
                  ih.mpr ⟨named, wholes.2, chosenForNodes, ?_⟩, ?_⟩
                · exact fun subnet member => others subnet (List.mem_cons_of_mem _ member)
                · simp [wholes.1]

theorem aroundNodes_eq_none_iff {subnets : List Subnet} :
    aroundNodes identity subnets = none ↔ ∀ subnet ∈ subnets, subnet.isForNodes = false := by
  induction subnets with
  | nil => simp [aroundNodes]
  | cons first rest ih =>
      cases forNodes : first.isForNodes <;> simp [aroundNodes, forNodes, ih]

/-- A directory is read off subnets exactly if it puts them together again around the hosting
one. -/
theorem ofSubnets_eq_ok_iff {subnets : List Subnet} :
    ofSubnets identity subnets = .ok directory ↔
      directory.identity = identity ∧ directory.subnets = subnets ∧ directory.IsHosting := by
  unfold ofSubnets
  cases around : aroundNodes identity subnets with
  | some found =>
      rcases aroundNodes_eq_some_iff.mp around with ⟨named, wholes, forNodes, others⟩
      simp only [Except.ok.injEq]
      constructor
      · rintro rfl
        exact ⟨named, wholes, .inl ⟨forNodes, others⟩⟩
      · intro fits
        rcases fits with ⟨named', wholes', ⟨forNodes', others'⟩ | ⟨first, noneForNodes⟩⟩
        · have found' := aroundNodes_eq_some_iff.mpr ⟨named', wholes', forNodes', others'⟩
          exact Option.some.inj (around.symm.trans found')
        · have member : found.subnet ∈ directory.subnet :: directory.after := by
            have equal : directory.subnets = found.subnets := wholes'.trans wholes.symm
            simp only [EndpointDirectory.subnets, first, List.nil_append] at equal
            simp [equal]
          simp [noneForNodes _ member] at forNodes
  | none =>
      have noneForNodes := aroundNodes_eq_none_iff.mp around
      rcases directory with ⟨owner, before, chosen, after⟩
      cases subnets with
      | nil => simp [EndpointDirectory.subnets]
      | cons first rest =>
          simp only [Except.ok.injEq]
          constructor
          · intro equal
            cases equal
            exact ⟨rfl, rfl, .inr ⟨rfl, noneForNodes⟩⟩
          · intro fits
            rcases fits with ⟨named, wholes, ⟨forNodes, -⟩ | ⟨nothingBefore, -⟩⟩
            · have member : chosen ∈ first :: rest := by
                simp [← wholes, EndpointDirectory.subnets]
              simp [noneForNodes _ member] at forNodes
            · simp only at named nothingBefore
              simp only [EndpointDirectory.subnets, nothingBefore, List.nil_append,
                List.cons.injEq] at wholes
              simp [named, nothingBefore, wholes]

theorem IsHosting.update (hosting : directory.IsHosting)
    (change : List PrivateEndpoint → List PrivateEndpoint) :
    (directory.update change).IsHosting := by
  rcases hosting with ⟨forNodes, others⟩ | ⟨first, noneForNodes⟩
  · exact .inl ⟨forNodes, others⟩
  · refine .inr ⟨first, ?_⟩
    intro subnet member
    rcases List.mem_cons.mp member with rfl | later
    · exact noneForNodes directory.subnet (by simp)
    · exact noneForNodes subnet (List.mem_cons_of_mem _ later)

@[simp] theorem update_update (directory : EndpointDirectory)
    (first second : List PrivateEndpoint → List PrivateEndpoint) :
    (directory.update first).update second = directory.update fun endpoints =>
      second (first endpoints) := rfl

theorem ofCluster_eq_ok_iff :
    ofCluster cluster = .ok directory ↔
      ClusterIdentity.ofCluster cluster = .ok directory.identity ∧
        directory.subnets = cluster.subnets ∧ directory.IsHosting := by
  unfold ofCluster
  cases named : ClusterIdentity.ofCluster cluster with
  | error error => simp
  | ok identity =>
      have swap : identity = directory.identity ↔ directory.identity = identity := eq_comm
      simp [ofSubnets_eq_ok_iff, swap]

theorem place_of_ofCluster (found : ofCluster cluster = .ok directory) :
    directory.identity.subscriptionId = cluster.spec.subscriptionId ∧
      directory.identity.resourceGroup = cluster.spec.resourceGroup :=
  ClusterIdentity.place_of_ofCluster (ofCluster_eq_ok_iff.mp found).1

/-- The cluster with changed endpoints has the directory with changed endpoints. -/
theorem ofCluster_update (found : ofCluster cluster = .ok directory)
    (change : List PrivateEndpoint → List PrivateEndpoint) :
    ofCluster (cluster.withSubnets (directory.update change).subnets) =
      .ok (directory.update change) := by
  rcases ofCluster_eq_ok_iff.mp found with ⟨named, -, hosting⟩
  exact ofCluster_eq_ok_iff.mpr ⟨named, rfl, hosting.update change⟩

theorem hostedEndpoints_of_ofCluster (found : ofCluster cluster = .ok directory) :
    cluster.hostedEndpoints = directory.endpoints := by
  rcases ofCluster_eq_ok_iff.mp found with ⟨-, wholes, ⟨forNodes, others⟩ | ⟨first, noneForNodes⟩⟩
  · have chosen : directory.subnets.find? (·.isForNodes) = some directory.subnet := by
      have skipped : directory.before.find? (·.isForNodes) = none := by
        simpa [List.find?_eq_none] using others
      simp [EndpointDirectory.subnets, skipped, forNodes]
    simp [Cluster.hostedEndpoints, Cluster.hostingSubnet?, ← wholes, chosen, endpoints]
  · have skipped : directory.subnets.find? (·.isForNodes) = none := by
      simpa [EndpointDirectory.subnets, first, List.find?_eq_none] using noneForNodes
    have head : directory.subnets.head? = some directory.subnet := by
      simp [EndpointDirectory.subnets, first]
    simp [Cluster.hostedEndpoints, Cluster.hostingSubnet?, ← wholes, skipped, head, endpoints]

@[simp] theorem endpoints_update (directory : EndpointDirectory)
    (change : List PrivateEndpoint → List PrivateEndpoint) :
    (directory.update change).endpoints = change directory.endpoints := rfl

@[simp] theorem identity_update (directory : EndpointDirectory)
    (change : List PrivateEndpoint → List PrivateEndpoint) :
    (directory.update change).identity = directory.identity := rfl

/-- A change to a directory is a change to the endpoints of the cluster. -/
theorem hostedEndpoints_withSubnets_update (found : ofCluster cluster = .ok directory)
    (change : List PrivateEndpoint → List PrivateEndpoint) :
    (cluster.withSubnets (directory.update change).subnets).hostedEndpoints =
      change cluster.hostedEndpoints := by
  rw [hostedEndpoints_of_ofCluster (ofCluster_update found change), endpoints_update,
    hostedEndpoints_of_ofCluster found]

theorem withSubnets_subnets (found : ofCluster cluster = .ok directory) :
    cluster.withSubnets directory.subnets = cluster := by
  rcases ofCluster_eq_ok_iff.mp found with ⟨-, wholes, -⟩
  rw [wholes]
  rfl

end EndpointDirectory

end ClusterLinks
