import ClusterLinks.Proofs.Pass.Findings
import ClusterLinks.Proofs.Pass.Removal

/-!
# What a pass may touch

Of its host a pass touches one list of endpoints, the one of the hosting subnet; of its owner it
touches the annotations for the two addresses. The pass for the ingress, in which a cluster is host
and owner, at most appends one endpoint, and only if its name is not taken.
-/

namespace ClusterLinks

variable {World : Type}

namespace Cluster

/-- Where the subnet that hosts endpoints stands: the first one for nodes, or else the first one. -/
def hostIndex (cluster : Cluster) : Nat :=
  (cluster.subnets.findIdx? (·.isForNodes)).getD 0

/-- The cluster with a changed list of endpoints in the subnet that hosts them. -/
def changeEndpoints (change : List PrivateEndpoint → List PrivateEndpoint) (cluster : Cluster) :
    Cluster :=
  cluster.withSubnets <| cluster.subnets.modify cluster.hostIndex fun subnet =>
    { subnet with endpoints := change subnet.endpoints }

/-- The cluster with other endpoints in the subnet that hosts them. -/
def withEndpoints (endpoints : List PrivateEndpoint) (cluster : Cluster) : Cluster :=
  cluster.changeEndpoints fun _ => endpoints

theorem getElem?_hostIndex (cluster : Cluster) :
    cluster.subnets[cluster.hostIndex]? = cluster.hostingSubnet? := by
  rw [hostIndex, hostingSubnet?]
  cases chosen : cluster.subnets.findIdx? (·.isForNodes) with
  | none =>
      rw [List.findIdx?_eq_none_iff] at chosen
      have absent : cluster.subnets.find? (·.isForNodes) = none := by simpa using chosen
      rw [absent, Option.none_or, Option.getD_none, List.head?_eq_getElem?]
  | some index =>
      obtain ⟨inside, forNodes, others⟩ := List.findIdx?_eq_some_iff_getElem.mp chosen
      have found : cluster.subnets.find? (·.isForNodes) = some cluster.subnets[index] :=
        List.find?_eq_some_iff_getElem.mpr
          ⟨forNodes, index, inside, rfl, fun earlier before => by simpa using others earlier before⟩
      rw [found, Option.some_or, Option.getD_some, List.getElem?_eq_getElem inside]

/-- A change that leaves the roles alone leaves the first subnet for nodes where it is. -/
theorem findIdx?_modify (subnets : List Subnet) (index : Nat) {change : Subnet → Subnet}
    (roles : ∀ subnet, (change subnet).isForNodes = subnet.isForNodes) :
    (subnets.modify index change).findIdx? (·.isForNodes) = subnets.findIdx? (·.isForNodes) := by
  induction subnets generalizing index with
  | nil => simp
  | cons first rest ih =>
    cases index with
    | zero => simp [List.findIdx?_cons, roles]
    | succ index => simp [List.findIdx?_cons, ih]

@[simp] theorem hostIndex_changeEndpoints (cluster : Cluster)
    (change : List PrivateEndpoint → List PrivateEndpoint) :
    (cluster.changeEndpoints change).hostIndex = cluster.hostIndex := by
  have roles (subnet : Subnet) :
      ({ subnet with endpoints := change subnet.endpoints } : Subnet).isForNodes =
        subnet.isForNodes := rfl
  have sameIndex := findIdx?_modify cluster.subnets cluster.hostIndex roles
  rw [hostIndex, hostIndex, ← sameIndex]
  rfl

theorem changeEndpoints_changeEndpoints (cluster : Cluster)
    (first second : List PrivateEndpoint → List PrivateEndpoint) :
    (cluster.changeEndpoints first).changeEndpoints second =
      cluster.changeEndpoints fun endpoints => second (first endpoints) := by
  rw [changeEndpoints, hostIndex_changeEndpoints]
  exact congrArg cluster.withSubnets (List.modify_modify_eq _ _ _ _)

/-- Without subnets there is nothing to change. -/
theorem hostedEndpoints_changeEndpoints (cluster : Cluster)
    (change : List PrivateEndpoint → List PrivateEndpoint) :
    (cluster.changeEndpoints change).hostedEndpoints = cluster.hostedEndpoints ∨
      (cluster.changeEndpoints change).hostedEndpoints = change cluster.hostedEndpoints := by
  have chosen : (cluster.changeEndpoints change).hostingSubnet? = cluster.hostingSubnet?.map
      fun subnet => { subnet with endpoints := change subnet.endpoints } := by
    rw [← getElem?_hostIndex, hostIndex_changeEndpoints, ← getElem?_hostIndex]
    exact List.getElem?_modify_eq _ _ _
  rw [hostedEndpoints, chosen, hostedEndpoints]
  cases cluster.hostingSubnet? with
  | none => exact .inl rfl
  | some subnet => exact .inr rfl

theorem changeEndpoints_id (cluster : Cluster) :
    cluster.changeEndpoints (fun endpoints => endpoints) = cluster :=
  congrArg cluster.withSubnets (List.modify_id _ _)

/-- Only what the list is changed to counts. -/
theorem changeEndpoints_eq_withEndpoints (cluster : Cluster)
    (change : List PrivateEndpoint → List PrivateEndpoint) :
    cluster.changeEndpoints change = cluster.withEndpoints (change cluster.hostedEndpoints) := by
  apply congrArg cluster.withSubnets
  rw [List.modify_eq_set_getElem?, List.modify_eq_set_getElem?, getElem?_hostIndex,
    hostedEndpoints]
  cases cluster.hostingSubnet? <;> rfl

end Cluster

/-- A change to the directory of a cluster is a change to the endpoints that it hosts. -/
theorem EndpointDirectory.withSubnets_update {cluster : Cluster} {directory : EndpointDirectory}
    (found : ofCluster cluster = .ok directory)
    (change : List PrivateEndpoint → List PrivateEndpoint) :
    cluster.withSubnets (directory.update change).subnets =
      cluster.withEndpoints (change cluster.hostedEndpoints) := by
  rw [← Cluster.changeEndpoints_eq_withEndpoints]
  obtain ⟨-, wholes, hosting⟩ := ofCluster_eq_ok_iff.mp found
  have index : cluster.hostIndex = directory.before.length := by
    rw [Cluster.hostIndex, ← wholes, EndpointDirectory.subnets, List.findIdx?_append]
    cases hosting with
    | inl first =>
        have skipped : directory.before.findIdx? (·.isForNodes) = none :=
          List.findIdx?_eq_none_iff.mpr first.2
        simp [skipped, List.findIdx?_cons, first.1]
    | inr first =>
        have skipped : (directory.subnet :: directory.after).findIdx? (·.isForNodes) = none :=
          List.findIdx?_eq_none_iff.mpr first.2
        simp [first.1, skipped]
  apply congrArg cluster.withSubnets
  rw [index, ← wholes, List.modify_eq_set_getElem?]
  simp [EndpointDirectory.subnets, EndpointDirectory.update]

/-! ## Endpoints and addresses -/

/-- The list is as it was, or one endpoint is appended, whose name was not taken. -/
def Endpoints.Gains (name : String) (before after : List PrivateEndpoint) : Prop :=
  after = before ∨
    has name before = false ∧ ∃ endpoint, endpoint.name = name ∧ after = before ++ [endpoint]

namespace Endpoints.Gains

variable {name : String} {first second third : List PrivateEndpoint}

theorem refl (name : String) (endpoints : List PrivateEndpoint) : Gains name endpoints endpoints :=
  .inl rfl

theorem trans (before : Gains name first second) (after : Gains name second third) :
    Gains name first third := by
  obtain rfl | ⟨free, endpoint, named, rfl⟩ := before
  · exact after
  · obtain rfl | ⟨stillFree, -⟩ := after
    · exact .inr ⟨free, endpoint, named, rfl⟩
    · simp [has, named] at stillFree

theorem add (endpoint : PrivateEndpoint) (endpoints : List PrivateEndpoint) :
    Gains endpoint.name endpoints (Endpoints.add endpoint endpoints) := by
  unfold Endpoints.add
  cases taken : has endpoint.name endpoints with
  | true => exact .inl rfl
  | false => exact .inr ⟨taken, endpoint, rfl, rfl⟩

end Endpoints.Gains

/-- The annotations are as they were, or addresses were written to them. No address is taken away,
and no other annotation is touched. -/
structure OnlyAddresses (before after : Option (Dictionary String)) : Prop where
  others : ∀ name, (∀ direction : Direction, name ≠ direction.annotation) →
    after.bind (·.get? name) = before.bind (·.get? name)
  kept : ∀ direction : Direction, (before.bind (·.get? direction.annotation)).isSome = true →
    (after.bind (·.get? direction.annotation)).isSome = true
  written : after ≠ before → ∃ direction : Direction,
    (after.bind (·.get? direction.annotation)).isSome = true

namespace OnlyAddresses

variable {first second third : Option (Dictionary String)}

theorem refl (annotations : Option (Dictionary String)) :
    OnlyAddresses annotations annotations where
  others _ _ := rfl
  kept _ present := present
  written differ := absurd rfl differ

theorem trans (before : OnlyAddresses first second) (after : OnlyAddresses second third) :
    OnlyAddresses first third where
  others name apart := (after.others name apart).trans (before.others name apart)
  kept direction present := after.kept direction (before.kept direction present)
  written differ := by
    by_cases same : third = second
    · rw [same] at differ ⊢
      exact before.written differ
    · exact after.written same

theorem record (direction : Direction) (address : IpAddress) (links : LinkDirectory) :
    OnlyAddresses links.annotations (links.record direction address).annotations := by
  unfold LinkDirectory.record
  split
  · exact refl _
  · have lookUp (name : String) :
        ((some ((links.annotations.getD ∅).insert direction.annotation address.toText)).bind
            (·.get? name)) =
          if name = direction.annotation then some address.toText
          else links.annotations.bind (·.get? name) := by
      rw [Option.bind_some, Dictionary.get?_insert]
      cases links.annotations <;> simp
    refine ⟨?_, ?_, ?_⟩
    · intro name apart
      rw [lookUp, if_neg (apart direction)]
    · intro other present
      rw [lookUp]
      split
      · rfl
      · exact present
    · intro _
      refine ⟨direction, ?_⟩
      rw [lookUp, if_pos rfl, Option.isSome_some]

theorem recordAll (direction : Direction) (addresses : List IpAddress) (links : LinkDirectory) :
    OnlyAddresses links.annotations
      (LinkDirectory.recordAll direction addresses links).annotations := by
  rw [LinkDirectory.recordAll_eq]
  split
  · exact record _ _ _
  · exact refl _

end OnlyAddresses

/-! ## Footprints -/

namespace Cluster

/-- The clusters differ in the endpoints that they host, and in nothing else. -/
def Rehosts (before after : Cluster) : Prop :=
  ∃ endpoints, after = before.withEndpoints endpoints

/-- The clusters differ in addresses that were written, in one endpoint of the name that was added
after all others, and in nothing else. -/
def Connects (name : String) (before after : Cluster) : Prop :=
  ∃ annotations endpoints, after = (before.withAnnotations annotations).withEndpoints endpoints ∧
    OnlyAddresses before.metadata.annotations annotations ∧
    Endpoints.Gains name before.hostedEndpoints endpoints

theorem withEndpoints_hostedEndpoints (cluster : Cluster) :
    cluster.withEndpoints cluster.hostedEndpoints = cluster :=
  (cluster.changeEndpoints_eq_withEndpoints fun endpoints => endpoints).symm.trans
    cluster.changeEndpoints_id

theorem withEndpoints_withEndpoints (cluster : Cluster) (first second : List PrivateEndpoint) :
    (cluster.withEndpoints first).withEndpoints second = cluster.withEndpoints second :=
  cluster.changeEndpoints_changeEndpoints _ _

namespace Rehosts

variable {first second third : Cluster}

theorem refl (cluster : Cluster) : cluster.Rehosts cluster :=
  ⟨cluster.hostedEndpoints, cluster.withEndpoints_hostedEndpoints.symm⟩

theorem trans (before : first.Rehosts second) (after : second.Rehosts third) :
    first.Rehosts third := by
  obtain ⟨endpoints, rfl⟩ := before
  obtain ⟨endpoints', rfl⟩ := after
  exact ⟨endpoints', first.withEndpoints_withEndpoints _ _⟩

end Rehosts

namespace Connects

variable {name : String} {first second third : Cluster}

theorem of_addresses {annotations : Option (Dictionary String)} (name : String) (cluster : Cluster)
    (only : OnlyAddresses cluster.metadata.annotations annotations) :
    Connects name cluster (cluster.withAnnotations annotations) :=
  ⟨annotations, cluster.hostedEndpoints,
    (withEndpoints_hostedEndpoints (cluster.withAnnotations annotations)).symm, only, .refl _ _⟩

theorem of_recordAll {links : LinkDirectory} (name : String)
    (owns : LinkDirectory.ofCluster first = .ok links) (direction : Direction)
    (addresses : List IpAddress) :
    Connects name first
      (first.withAnnotations (LinkDirectory.recordAll direction addresses links).annotations) := by
  apply of_addresses
  rw [← (LinkDirectory.ofCluster_eq_ok_iff.mp owns).2.2.2]
  exact .recordAll _ _ _

theorem of_add {directory : EndpointDirectory}
    (hosts : EndpointDirectory.ofCluster first = .ok directory) (endpoint : PrivateEndpoint) :
    Connects endpoint.name first
      (first.withSubnets (directory.update (Endpoints.add endpoint)).subnets) :=
  ⟨first.metadata.annotations, _, EndpointDirectory.withSubnets_update hosts _, .refl _, .add _ _⟩

theorem refl (name : String) (cluster : Cluster) : Connects name cluster cluster :=
  of_addresses name cluster (.refl _)

theorem trans (before : Connects name first second) (after : Connects name second third) :
    Connects name first third := by
  obtain ⟨annotations, endpoints, rfl, only, gains⟩ := before
  obtain ⟨annotations', endpoints', rfl, only', gains'⟩ := after
  refine ⟨annotations', endpoints', ?_, only.trans only', Endpoints.Gains.trans ?_ gains'⟩
  · exact withEndpoints_withEndpoints (first.withAnnotations annotations') _ _
  · obtain same | changed :=
      hostedEndpoints_changeEndpoints (first.withAnnotations annotations) fun _ => endpoints
    · rw [withEndpoints, same]
      exact .refl _ _
    · rw [withEndpoints, changed]
      exact gains

end Connects

end Cluster

theorem ClusterIdentity.name_of_ofCluster {cluster : Cluster} {identity : ClusterIdentity}
    (named : ofCluster cluster = .ok identity) : identity.name = cluster.displayName := by
  unfold ofCluster at named
  split at named
  · simp at named
  · simp at named
  · next name isName =>
      simp only [Except.ok.injEq] at named
      simp [← named, Cluster.displayName, Metadata.displayName, isName]

namespace Pass

/-- A pass between two clusters touches the endpoints of the host and the addresses of the owner. -/
theorem footprint_of_reconcile (client? : Option (EndpointsClient World)) (host owner : Cluster)
    (name : String) (world : World) :
    let after := run (reconcile client?) host owner world
    host.Rehosts after.2.1 ∧ Cluster.Connects name owner after.2.2.1 := by
  intro after
  cases hosts : EndpointDirectory.ofCluster host with
  | error error => simp [after, run, hosts, Cluster.Rehosts.refl, Cluster.Connects.refl]
  | ok endpoints =>
    cases owns : LinkDirectory.ofCluster owner with
    | error error => simp [after, run, hosts, owns, Cluster.Rehosts.refl, Cluster.Connects.refl]
    | ok links =>
        have afterIs : after = _ := run_reconcile_eq client? hosts owns world
        rw [afterIs]
        cases obstacle? endpoints.identity links with
        | some error => exact ⟨.refl _, .refl _ _⟩
        | none =>
            exact ⟨⟨_, EndpointDirectory.withSubnets_update hosts _⟩,
              .of_recordAll name owns .toApiServer _⟩

/-- The pass for the ingress adds the endpoint that is named for the ingress. -/
theorem footprint_of_ingress (client? : Option (EndpointsClient World))
    (management : ClusterIdentity) (link : PrivateLink) (cluster : Cluster) (world : World) :
    Cluster.Connects (PrivateEndpoint.ingressNameFor cluster.displayName management.name) cluster
      (runAlone (ingress client? management link) cluster world).2.1 := by
  obtain ⟨error, fails⟩ | ⟨endpoints, links, hosts, owns⟩ := runAlone_cases cluster
  · rw [fails]
    exact .refl _ _
  · have named : endpoints.identity.name = cluster.displayName :=
      ClusterIdentity.name_of_ofCluster (EndpointDirectory.ofCluster_eq_ok_iff.mp hosts).1
    rw [runAlone_ingress_eq _ _ _ hosts owns, ← named]
    have added := Cluster.Connects.of_add hosts
      (PrivateEndpoint.forIngress endpoints.identity management link)
    refine added.trans (.of_recordAll _ ?_ .toIngress _)
    exact (LinkDirectory.ofCluster_withSubnets cluster _).trans owns

/-- A deletion touches the endpoints of the host. -/
theorem footprint_of_delete (host owner : Cluster) (world : World) :
    host.Rehosts (run delete host owner world).2.1 := by
  obtain ⟨-, kept⟩ | ⟨endpoints, links, hosts, owns⟩ := run_cases delete host owner world
  · rw [kept]
    exact .refl _
  · rw [run_of_directories hosts owns, delete_run]
    exact ⟨_, EndpointDirectory.withSubnets_update hosts _⟩

end Pass

end ClusterLinks
