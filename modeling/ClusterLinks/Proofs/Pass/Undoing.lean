import ClusterLinks.Proofs.Pass.Exact

/-!
# Taking back what a pass did

Where the owner has no loose ends, a pass adds a beginning of the wanted endpoints and does nothing
else to its host, however it ends. A deletion goes by the names of all of them. So it takes back
what the pass has added, as long as nothing that was there before bears one of these names.
-/

namespace ClusterLinks

open Endpoints

variable {World : Type}

/-- The owner at another time. It has its name and its links still; whether they are ready, and
everything else, may differ. -/
structure Cluster.IsLater (later owner : Cluster) : Prop where
  name : later.metadata.name = owner.metadata.name
  links : later.privateLinks = owner.privateLinks

theorem Cluster.IsLater.symm {later owner : Cluster} (isLater : later.IsLater owner) :
    owner.IsLater later :=
  ⟨isLater.name.symm, isLater.links.symm⟩

theorem Cluster.IsLater.ofCluster {later owner : Cluster} {identity : ClusterIdentity}
    (isLater : later.IsLater owner) (named : ClusterIdentity.ofCluster owner = .ok identity) :
    ∃ identity', ClusterIdentity.ofCluster later = .ok identity' := by
  unfold ClusterIdentity.ofCluster at named ⊢
  rw [isLater.name]
  split at named
  · cases named
  · cases named
  · exact ⟨_, rfl⟩

/-- The owner has links to look for at any time if it has some at one time. -/
theorem Cluster.IsLater.exists_directory {later owner : Cluster} {links : LinkDirectory}
    (isLater : later.IsLater owner) (host : ClusterIdentity)
    (owns : LinkDirectory.ofCluster owner = .ok links) :
    ∃ links', LinkDirectory.ofCluster later = .ok links' ∧
      Pass.wantedNames host links' = Pass.wantedNames host links := by
  obtain ⟨named, declared, -⟩ := LinkDirectory.ofCluster_eq_ok_iff.mp owns
  obtain ⟨identity, named'⟩ := isLater.ofCluster named
  refine ⟨⟨identity, later.privateLinks, later.conditions, later.metadata.annotations⟩, ?_, ?_⟩
  · exact LinkDirectory.ofCluster_eq_ok_iff.mpr ⟨named', rfl, rfl, rfl⟩
  · rw [Pass.wantedNames, Pass.wantedNames, LinkDirectory.allowing, LinkDirectory.allowing,
      declared, isLater.links]

namespace Landscape

/-- The violet cluster when its links are not ready any more. -/
def fadedViolet : Cluster := { violet with status := none }

end Landscape

namespace EndpointDirectory

variable {host : Cluster} {directory : EndpointDirectory}

theorem ofCluster_withEndpoints (hosts : ofCluster host = .ok directory)
    (endpoints : List PrivateEndpoint) :
    ofCluster (host.withEndpoints endpoints) = .ok (directory.update fun _ => endpoints) := by
  have changed : host.withSubnets (directory.update fun _ => endpoints).subnets =
      host.withEndpoints endpoints := withSubnets_update hosts _
  rw [← changed]
  exact ofCluster_update hosts _

theorem hostedEndpoints_withEndpoints (hosts : ofCluster host = .ok directory)
    (endpoints : List PrivateEndpoint) :
    (host.withEndpoints endpoints).hostedEndpoints = endpoints := by
  rw [hostedEndpoints_of_ofCluster (ofCluster_withEndpoints hosts endpoints), endpoints_update]

end EndpointDirectory

namespace Pass

variable {client? : Option (EndpointsClient World)}
variable {host owner later : Cluster} {directory : EndpointDirectory} {links : LinkDirectory}
variable {endpoints early : List PrivateEndpoint}

/-- Where nothing is stale, settling is adding. -/
theorem settle_of_clean (identity : ClusterIdentity)
    (clean : ∀ endpoint ∈ endpoints, isStale links endpoint = false) :
    settle identity links endpoints = addAll (wanted identity links) endpoints := by
  have nothing : unused links (addAll (wanted identity links) endpoints) = [] := by
    rw [unused_eq, List.filter_eq_nil_iff]
    intro endpoint member
    rw [Bool.not_eq_true]
    obtain present | ⟨-, found⟩ := mem_addAll.mp member
    · exact clean endpoint present
    · exact not_isStale_of_mem_wanted (List.mem_of_find?_eq_some found)
  rw [settle, removeUnused, nothing, List.foldl_nil]

/-- The names of what is wanted are the names that a deletion looks for. -/
theorem name_mem_wantedNames {identity : ClusterIdentity} {endpoint : PrivateEndpoint}
    (member : endpoint ∈ wanted identity links) : endpoint.name ∈ wantedNames identity links := by
  obtain ⟨link, allowed, rfl⟩ := mem_wanted.mp member
  exact List.mem_map.mpr ⟨link, allowed, rfl⟩

/-- Without loose ends a pass adds a beginning of what is wanted, and that is all. -/
theorem exists_adjust_eq (identity : ClusterIdentity)
    (clean : ∀ endpoint ∈ endpoints, isStale links endpoint = false) (search : Search World) :
    ∃ early, early <+: wanted identity links ∧
      adjust identity links search endpoints = addAll early endpoints := by
  unfold adjust
  cases search.result with
  | ok done => exact ⟨_, List.prefix_refl _, settle_of_clean identity clean⟩
  | error error => exact ⟨_, List.take_prefix search.attempts _, rfl⟩

section Directories

variable (hosts : EndpointDirectory.ofCluster host = .ok directory)
  (owns : LinkDirectory.ofCluster owner = .ok links)

include hosts owns

theorem exists_host_of_reconcile
    (settled : ∀ endpoint ∈ host.hostedEndpoints, ¬ endpoint.IsLooseEndOf owner)
    (client? : Option (EndpointsClient World)) (world : World) :
    ∃ early, early <+: wanted directory.identity links ∧
      (run (reconcile client?) host owner world).2.1 =
        host.withEndpoints (addAll early host.hostedEndpoints) := by
  have clean : ∀ endpoint ∈ host.hostedEndpoints, isStale links endpoint = false := by
    intro endpoint present
    rw [← Bool.not_eq_true, isStale_iff_isLooseEndOf owns]
    exact settled endpoint present
  rw [run_reconcile_eq client? hosts owns world]
  cases obstacle? directory.identity links with
  | some error => exact ⟨[], List.nil_prefix, host.withEndpoints_hostedEndpoints.symm⟩
  | none =>
      obtain ⟨early, part, added⟩ := exists_adjust_eq directory.identity clean
        (lookUps client? directory links world)
      refine ⟨early, part, ?_⟩
      rw [← added]
      exact EndpointDirectory.withSubnets_update hosts _

/-- A deletion removes names from the endpoints of the host and touches nothing else. -/
theorem run_delete_eq (world : World) :
    run delete host owner world =
      (.ok (), host.withEndpoints
        (removeNames (wantedNames directory.identity links) host.hostedEndpoints), owner,
        world) := by
  have names (kept : List PrivateEndpoint) : removeWanted directory.identity links kept =
      removeNames (wantedNames directory.identity links) kept :=
    removeWanted_eq_removeNames _ _ _
  rw [run_of_directories hosts owns, delete_run]
  dsimp only
  rw [EndpointDirectory.withSubnets_update hosts, names,
    LinkDirectory.withAnnotations_annotations owns]

end Directories

/-- A deletion for a later version of the owner restores the endpoints of a host to which some of
the wanted ones were added. -/
theorem run_delete_added (hosts : EndpointDirectory.ofCluster host = .ok directory)
    (owns : LinkDirectory.ofCluster owner = .ok links) (isLater : later.IsLater owner)
    (unclaimed : ∀ endpoint ∈ host.hostedEndpoints, ¬ endpoint.IsNamedFor (openLinks host owner))
    (part : early <+: wanted directory.identity links) (world : World) :
    run delete (host.withEndpoints (addAll early host.hostedEndpoints)) later world =
      (.ok (), host, later, world) := by
  obtain ⟨links', owns', sameNames⟩ := isLater.exists_directory directory.identity owns
  have apart : ∀ endpoint ∈ host.hostedEndpoints,
      endpoint.name ∉ wantedNames directory.identity links := by
    intro endpoint present named
    rw [← List.contains_iff_mem, contains_wantedNames_iff hosts owns] at named
    exact unclaimed endpoint present named
  have named : ∀ endpoint ∈ early, endpoint.name ∈ wantedNames directory.identity links :=
    fun endpoint member => name_mem_wantedNames (part.subset member)
  rw [run_delete_eq (EndpointDirectory.ofCluster_withEndpoints hosts _) owns',
    EndpointDirectory.identity_update, sameNames,
    EndpointDirectory.hostedEndpoints_withEndpoints hosts, removeNames_addAll apart named,
    Cluster.withEndpoints_withEndpoints, Cluster.withEndpoints_hostedEndpoints]

/-- A deletion undoes a pass. If no endpoint bears a name that the pass is to give and none is a
loose end of the owner, then however the pass ends, whoever was asked and whatever has become of
the owner since, the deletion leaves the host as it was before. A second one ends like the first
and changes nothing. -/
theorem delete_undoes_reconcile (host owner later : Cluster)
    (client? : Option (EndpointsClient World)) (world world' world'' : World)
    (isLater : later.IsLater owner)
    (unclaimed : ∀ endpoint ∈ host.hostedEndpoints, ¬ endpoint.IsNamedFor (openLinks host owner))
    (settled : ∀ endpoint ∈ host.hostedEndpoints, ¬ endpoint.IsLooseEndOf owner) :
    let connected := (run (reconcile client?) host owner world).2.1
    let torn := run delete connected later world'
    let again := run delete torn.2.1 later world''
    ∃ result, torn = (result, host, later, world') ∧ again = (result, host, later, world'') := by
  intro connected torn again
  cases hosts : EndpointDirectory.ofCluster host with
  | error error => exact ⟨.error error, by simp [again, torn, connected, run, hosts]⟩
  | ok directory =>
    cases owns : LinkDirectory.ofCluster owner with
    | error error =>
        cases owns' : LinkDirectory.ofCluster later with
        | error error' =>
            exact ⟨.error error', by simp [again, torn, connected, run, hosts, owns, owns']⟩
        | ok links' =>
            obtain ⟨links, owns'', -⟩ := isLater.symm.exists_directory directory.identity owns'
            rw [owns] at owns''
            cases owns''
    | ok links =>
        obtain ⟨early, part, added⟩ := exists_host_of_reconcile hosts owns settled client? world
        have tornIs : torn = (.ok (), host, later, world') := by
          simp only [torn, connected, added]
          exact run_delete_added hosts owns isLater unclaimed part world'
        have againIs : again = (.ok (), host, later, world'') := by
          have nothing := run_delete_added hosts owns isLater unclaimed List.nil_prefix world''
          rw [addAll_nil, Cluster.withEndpoints_hostedEndpoints] at nothing
          simp only [again, tornIs]
          exact nothing
        exact ⟨.ok (), tornIs, againIs⟩

open Landscape in
/-- The pass for the violet cluster stops at the second link. When its links are not ready any more,
its deletion takes both endpoints back. -/
theorem management_restored_after_violet :
    (run (reconcile (some hesitant)) management violet ()).1 =
        .error (.endpointNotFound (PrivateEndpoint.nameFor "web")) ∧
      (run (reconcile (some hesitant)) management violet ()).2.1.hostedEndpoints.map (·.name) =
        [PrivateEndpoint.nameFor "api", PrivateEndpoint.nameFor "web"] ∧
      Condition.holds fadedViolet.conditions Conventions.linksReadyCondition = false ∧
      run delete (run (reconcile (some hesitant)) management violet ()).2.1 fadedViolet () =
        (.ok (), management, fadedViolet, ()) := by
  have undone := delete_undoes_reconcile management violet fadedViolet (some hesitant) () () ()
    ⟨rfl, rfl⟩ (by decide +kernel) (by decide +kernel)
  dsimp only at undone
  obtain ⟨result, restored, -⟩ := undone
  have succeeds : (run delete (run (reconcile (some hesitant)) management violet ()).2.1
      fadedViolet ()).1 = .ok () := by
    decide +kernel
  rw [restored] at succeeds
  dsimp only at succeeds
  rw [succeeds] at restored
  exact ⟨by decide +kernel, by decide +kernel, by decide +kernel, restored⟩

end Pass
end ClusterLinks
