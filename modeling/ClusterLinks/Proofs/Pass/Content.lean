import ClusterLinks.Proofs.Cluster.Documents
import ClusterLinks.Proofs.Pass.Footprint

/-!
# Passes and documents

A cluster that is kept as a document may come back with another version, and with an empty
annotation map in place of an unset one. What remains is its content. Passes go by the content
alone, and they leave nothing behind that cannot be written to a document and read back.
-/

namespace ClusterLinks

variable {World : Type}

namespace Cluster

/-- The cluster without its version, and with an empty annotation map in place of an unset one. -/
def content (cluster : Cluster) : Cluster :=
  { cluster with
    metadata.resourceVersion := none,
    metadata.annotations := some (cluster.metadata.annotations.getD ∅) }

@[simp] theorem key_content (cluster : Cluster) : cluster.content.key = cluster.key := rfl

theorem content_withAnnotations (cluster : Cluster) (annotations : Option (Dictionary String)) :
    (cluster.withAnnotations annotations).content =
      cluster.content.withAnnotations (some (annotations.getD ∅)) := rfl

@[simp] theorem identity_content (cluster : Cluster) :
    ClusterIdentity.ofCluster cluster.content = ClusterIdentity.ofCluster cluster := rfl

/-- What is read off the content is the same for clusters with the same content. -/
theorem eq_of_content_eq {α : Type} {cluster cluster' : Cluster} (read : Cluster → α)
    (fromContent : ∀ cluster : Cluster, read cluster.content = read cluster)
    (same : cluster'.content = cluster.content) : read cluster' = read cluster := by
  rw [← fromContent cluster', same, fromContent]

/-- Every subnet can be written and read back. -/
def IsTidy (cluster : Cluster) : Prop :=
  ∀ subnet ∈ cluster.subnets, subnet.IsTidy

theorem IsTidy.endpoint {cluster : Cluster} (tidy : cluster.IsTidy) {endpoint : PrivateEndpoint}
    (hosted : endpoint ∈ cluster.hostedEndpoints) : endpoint.IsTidy := by
  rw [hostedEndpoints] at hosted
  cases chosen : cluster.hostingSubnet? with
  | none =>
      rw [chosen] at hosted
      cases hosted
  | some subnet =>
      rw [chosen] at hosted
      rw [← getElem?_hostIndex] at chosen
      exact (tidy subnet (List.mem_of_getElem? chosen)).2 endpoint hosted

/-- The subnet that hosts endpoints takes any that can be written. -/
theorem IsTidy.withEndpoints {cluster : Cluster} (tidy : cluster.IsTidy)
    {endpoints : List PrivateEndpoint} (fit : ∀ endpoint ∈ endpoints, endpoint.IsTidy) :
    (cluster.withEndpoints endpoints).IsTidy := by
  intro subnet member
  obtain ⟨index, found⟩ := List.getElem?_of_mem member
  change (cluster.subnets.modify _ _)[index]? = _ at found
  rw [List.getElem?_modify] at found
  obtain ⟨original, there, changed⟩ := Option.map_eq_some_iff.mp found
  have originalTidy := tidy original (List.mem_of_getElem? there)
  split at changed
  · rw [← changed]
    exact ⟨originalTidy.1, fit⟩
  · rw [← changed]
    exact originalTidy

end Cluster

/-- A wanted endpoint says nothing beside what is modelled. -/
theorem PrivateEndpoint.isTidy_wanted (name : String) (host owner : ClusterIdentity)
    (link : PrivateLink) (message : String) : (wanted name host owner link message).IsTidy := by
  refine ⟨fun _ _ => rfl, ?_⟩
  intro connection member
  rw [wanted, List.mem_singleton] at member
  rw [member]
  exact fun _ _ => rfl

/-! ## Addresses -/

namespace LinkDirectory

/-- The links with an empty annotation map in place of an unset one. -/
def content (links : LinkDirectory) : LinkDirectory :=
  { links with annotations := some (links.annotations.getD ∅) }

theorem ofCluster_content (cluster : Cluster) :
    ofCluster cluster.content = (ofCluster cluster).map content := by
  unfold ofCluster
  rw [Cluster.identity_content]
  cases ClusterIdentity.ofCluster cluster <;> rfl

theorem record_content (direction : Direction) (address : IpAddress) (links : LinkDirectory) :
    links.content.record direction address = (links.record direction address).content := by
  have sameRecord : links.content.recorded? direction = links.recorded? direction := by
    rw [recorded?, recorded?, content]
    cases links.annotations <;> rfl
  unfold record
  rw [sameRecord]
  split <;> rfl

theorem recordAll_content (direction : Direction) (addresses : List IpAddress)
    (links : LinkDirectory) :
    recordAll direction addresses links.content =
      (recordAll direction addresses links).content := by
  rw [recordAll_eq, recordAll_eq]
  split
  · exact record_content _ _ _
  · rfl

end LinkDirectory

/-! ## Passes -/

theorem EndpointDirectory.ofCluster_content (cluster : Cluster) :
    ofCluster cluster.content = ofCluster cluster := rfl

namespace Pass

variable {client? : Option (EndpointsClient World)} {management : ClusterIdentity}
variable {link : PrivateLink} {host owner cluster : Cluster}

/-- A pass comes to the same between two clusters as between their contents. -/
theorem run_reconcile_content (client? : Option (EndpointsClient World)) (host owner : Cluster)
    (world : World) :
    run (reconcile client?) host.content owner.content world =
      let after := run (reconcile client?) host owner world
      (after.1, after.2.1.content, after.2.2.1.content, after.2.2.2) := by
  cases hosts : EndpointDirectory.ofCluster host with
  | error error =>
      have hosts' := (EndpointDirectory.ofCluster_content host).trans hosts
      simp [run, hosts, hosts']
  | ok endpoints =>
    have hosts' := (EndpointDirectory.ofCluster_content host).trans hosts
    have owns' := LinkDirectory.ofCluster_content owner
    cases owns : LinkDirectory.ofCluster owner with
    | error error =>
        rw [owns] at owns'
        simp [run, hosts, hosts', owns, owns', Except.map]
    | ok links =>
        rw [owns] at owns'
        have sameObstacle : obstacle? endpoints.identity links.content =
            obstacle? endpoints.identity links := rfl
        rw [run_reconcile_eq client? hosts owns, run_reconcile_eq client? hosts' owns',
          sameObstacle]
        cases obstacle? endpoints.identity links with
        | some error => rfl
        | none =>
            simp only [LinkDirectory.recordAll_content]
            rfl

theorem runAlone_ingress_content (client? : Option (EndpointsClient World))
    (management : ClusterIdentity) (link : PrivateLink) (cluster : Cluster) (world : World) :
    runAlone (ingress client? management link) cluster.content world =
      let after := runAlone (ingress client? management link) cluster world
      (after.1, after.2.1.content, after.2.2) := by
  have hosts' := EndpointDirectory.ofCluster_content cluster
  have owns' := LinkDirectory.ofCluster_content cluster
  cases hosts : EndpointDirectory.ofCluster cluster with
  | error error => simp [runAlone, hosts, hosts']
  | ok endpoints =>
    cases owns : LinkDirectory.ofCluster cluster with
    | error error => simp [runAlone, hosts, hosts', owns, owns', Except.map]
    | ok links =>
        rw [owns] at owns'
        rw [hosts] at hosts'
        rw [runAlone_ingress_eq _ _ _ hosts owns, runAlone_ingress_eq _ _ _ hosts' owns']
        simp only [LinkDirectory.recordAll_content]
        rfl

theorem run_delete_content (host owner : Cluster) (world : World) :
    (run delete host.content owner world).1 = (run delete host owner world).1 ∧
      (run delete host.content owner world).2.1 = (run delete host owner world).2.1.content := by
  have hosts' := EndpointDirectory.ofCluster_content host
  cases hosts : EndpointDirectory.ofCluster host with
  | error error => simp [run, hosts, hosts']
  | ok endpoints =>
    rw [hosts] at hosts'
    cases owns : LinkDirectory.ofCluster owner with
    | error error => simp [run, hosts, hosts', owns]
    | ok links =>
        rw [run_of_directories hosts owns, run_of_directories hosts' owns]
        exact ⟨rfl, rfl⟩

/-! ## Tidiness -/

theorem isTidy_of_mem_addAll {wanted endpoints : List PrivateEndpoint}
    (fit : ∀ endpoint ∈ wanted, endpoint.IsTidy) (tidy : ∀ endpoint ∈ endpoints, endpoint.IsTidy) :
    ∀ endpoint ∈ Endpoints.addAll wanted endpoints, endpoint.IsTidy := by
  intro endpoint member
  obtain there | ⟨-, found⟩ := Endpoints.mem_addAll.mp member
  · exact tidy endpoint there
  · exact fit endpoint (List.mem_of_find?_eq_some found)

theorem isTidy_of_mem_adjust {identity : ClusterIdentity} {links : LinkDirectory}
    {search : Search World} {kept : List PrivateEndpoint}
    (tidy : ∀ endpoint ∈ kept, endpoint.IsTidy) :
    ∀ endpoint ∈ adjust identity links search kept, endpoint.IsTidy := by
  have fit : ∀ endpoint ∈ wanted identity links, endpoint.IsTidy := by
    intro endpoint member
    obtain ⟨link, -, rfl⟩ := List.mem_map.mp member
    exact PrivateEndpoint.isTidy_wanted _ _ _ _ _
  intro endpoint member
  unfold adjust at member
  split at member
  · rw [settle, removeUnused_eq_removeNames] at member
    exact isTidy_of_mem_addAll fit tidy endpoint ((Endpoints.removeNames_sublist _ _).mem member)
  · have attempted : ∀ endpoint ∈ (wanted identity links).take search.attempts, endpoint.IsTidy :=
      fun endpoint member => fit endpoint (List.mem_of_mem_take member)
    exact isTidy_of_mem_addAll attempted tidy endpoint member

theorem isTidy_run_reconcile (tidy : host.IsTidy) (world : World) :
    (run (reconcile client?) host owner world).2.1.IsTidy := by
  cases hosts : EndpointDirectory.ofCluster host with
  | error error => simpa [run, hosts] using tidy
  | ok endpoints =>
    cases owns : LinkDirectory.ofCluster owner with
    | error error => simpa [run, hosts, owns] using tidy
    | ok links =>
        rw [run_reconcile_eq client? hosts owns]
        cases obstacle? endpoints.identity links with
        | some error => exact tidy
        | none =>
            dsimp only
            rw [EndpointDirectory.withSubnets_update hosts]
            exact tidy.withEndpoints (isTidy_of_mem_adjust fun _ hosted => tidy.endpoint hosted)

/-- A pass leaves the subnets of an owner alone. -/
theorem isTidy_owner_run_reconcile (tidy : owner.IsTidy) (world : World) :
    (run (reconcile client?) host owner world).2.2.1.IsTidy := by
  unfold run
  split <;> exact tidy

theorem isTidy_runAlone_ingress (tidy : cluster.IsTidy) (world : World) :
    (runAlone (ingress client? management link) cluster world).2.1.IsTidy := by
  obtain ⟨error, fails⟩ | ⟨endpoints, links, hosts, owns⟩ := runAlone_cases cluster
  · rw [fails]
    exact tidy
  · rw [runAlone_ingress_eq _ _ _ hosts owns]
    dsimp only
    rw [EndpointDirectory.withSubnets_update hosts]
    apply Cluster.IsTidy.withEndpoints tidy
    intro endpoint member
    obtain there | ⟨-, rfl⟩ := Endpoints.mem_add.mp member
    · exact tidy.endpoint there
    · exact PrivateEndpoint.isTidy_wanted _ _ _ _ _

theorem isTidy_run_delete (tidy : host.IsTidy) (world : World) :
    (run delete host owner world).2.1.IsTidy := by
  obtain ⟨-, kept⟩ | ⟨endpoints, links, hosts, owns⟩ := run_cases delete host owner world
  · rw [kept]
    exact tidy
  · rw [run_of_directories hosts owns, delete_run]
    dsimp only
    rw [EndpointDirectory.withSubnets_update hosts, removeWanted_eq_removeNames]
    apply tidy.withEndpoints
    intro endpoint member
    exact tidy.endpoint ((Endpoints.removeNames_sublist _ _).mem member)

end Pass

end ClusterLinks
