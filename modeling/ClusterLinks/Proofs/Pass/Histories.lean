import ClusterLinks.Proofs.Pass.Upkeep
import Mathlib.Data.List.Induction

/-!
# Histories of passes

A host sees passes for many owners, in any order, some of which fail half way. If it hosted nothing
at first, then at any time the names of its endpoints are unique, and each endpoint was made for
the owner of some earlier pass. What an endpoint connects to can therefore be told from its name
and from whom it was made for.
-/

namespace ClusterLinks

open Endpoints

variable {World : Type}

/-- A pass against a host, with all that it depends on apart from the host. -/
inductive PassCall (World : Type) where
  | reconcile (client? : Option (EndpointsClient World)) (owner : Cluster) (world : World)
  | delete (owner : Cluster) (world : World)

namespace PassCall

def owner : PassCall World → Cluster
  | .reconcile _ owner _ => owner
  | .delete owner _ => owner

/-- The host as a pass leaves it, whether it succeeds or not. -/
def hostAfter : PassCall World → Cluster → Cluster
  | .reconcile client? owner world, host => (Pass.run (Pass.reconcile client?) host owner world).2.1
  | .delete owner world, host => (Pass.run Pass.delete host owner world).2.1

/-- The host as passes leave it, one after the other. -/
def hostAfterAll (calls : List (PassCall World)) (host : Cluster) : Cluster :=
  calls.foldl (fun host call => call.hostAfter host) host

@[simp] theorem hostAfterAll_nil (host : Cluster) :
    hostAfterAll ([] : List (PassCall World)) host = host := rfl

@[simp] theorem hostAfterAll_concat (calls : List (PassCall World)) (call : PassCall World)
    (host : Cluster) :
    hostAfterAll (calls ++ [call]) host = call.hostAfter (hostAfterAll calls host) := by
  simp [hostAfterAll]

end PassCall

namespace Pass

variable {host owner : Cluster} {endpoints : EndpointDirectory} {links : LinkDirectory}

/-! ## One pass -/

theorem isMadeFor_of_mem_wanted (owns : LinkDirectory.ofCluster owner = .ok links)
    {identity : ClusterIdentity} {endpoint : PrivateEndpoint}
    (member : endpoint ∈ wanted identity links) : endpoint.IsMadeFor owner := by
  rcases mem_wanted.mp member with ⟨link, allowed, rfl⟩
  refine ⟨link, ?_, rfl, ?_⟩
  · rw [← LinkDirectory.links_of_ofCluster owns]
    exact List.mem_of_mem_filter allowed
  · rw [← LinkDirectory.idOf_of_ofCluster owns link]
    exact PrivateEndpoint.forApiServer_connectsOnlyTo _ _ _

/-- What a pass does to the endpoints of the host, whatever becomes of it: it adds endpoints that
were made for the owner, and then it only removes. -/
def OnlyAddsFor (owner : Cluster) (before after : List PrivateEndpoint) : Prop :=
  ∃ added, (∀ endpoint ∈ added, endpoint.IsMadeFor owner) ∧ after.Sublist (addAll added before)

theorem OnlyAddsFor.refl (owner : Cluster) (endpoints : List PrivateEndpoint) :
    OnlyAddsFor owner endpoints endpoints :=
  ⟨[], by simp, List.Sublist.refl _⟩

/-- A pass only adds for its owner if what it does to the endpoints of a directory only adds for
its owner. -/
theorem onlyAddsFor_run {pass : Pass World Unit} {world : World}
    (changes : ∀ endpoints links, LinkDirectory.ofCluster owner = .ok links →
      ∃ change, (pass ⟨endpoints, links, world⟩).2.host = endpoints.update change ∧
        ∀ kept, OnlyAddsFor owner kept (change kept)) :
    OnlyAddsFor owner host.hostedEndpoints (run pass host owner world).2.1.hostedEndpoints := by
  cases hosts : EndpointDirectory.ofCluster host with
  | error error =>
      simp only [run, hosts]
      exact .refl _ _
  | ok endpoints =>
    cases owns : LinkDirectory.ofCluster owner with
    | error error =>
        simp only [run, hosts, owns]
        exact .refl _ _
    | ok links =>
        rcases changes endpoints links owns with ⟨change, changed, onlyAdds⟩
        rw [run_of_directories hosts owns]
        simp only [changed, EndpointDirectory.hostedEndpoints_withSubnets_update hosts]
        exact onlyAdds _

theorem onlyAddsFor_reconcile (client? : Option (EndpointsClient World)) (host owner : Cluster)
    (world : World) :
    OnlyAddsFor owner host.hostedEndpoints
      (run (reconcile client?) host owner world).2.1.hostedEndpoints := by
  apply onlyAddsFor_run
  intro endpoints links owns
  rw [reconcile_run]
  cases obstacle? endpoints.identity links with
  | some error => exact ⟨id, rfl, OnlyAddsFor.refl owner⟩
  | none =>
      dsimp only
      refine ⟨_, rfl, ?_⟩
      intro kept
      split
      · refine ⟨wanted endpoints.identity links, ?_, ?_⟩
        · exact fun endpoint member => isMadeFor_of_mem_wanted owns member
        · rw [removeUnused_eq_removeNames]
          exact removeNames_sublist _ _
      · refine ⟨_, ?_, List.Sublist.refl _⟩
        exact fun endpoint member => isMadeFor_of_mem_wanted owns (List.mem_of_mem_take member)

theorem onlyAddsFor_delete (host owner : Cluster) (world : World) :
    OnlyAddsFor owner host.hostedEndpoints
      (run delete host owner world).2.1.hostedEndpoints := by
  apply onlyAddsFor_run
  intro endpoints links owns
  rw [delete_run]
  refine ⟨_, rfl, ?_⟩
  intro kept
  refine ⟨[], by simp, ?_⟩
  rw [removeWanted_eq_removeNames]
  exact removeNames_sublist _ _

/-- A pass does not move the host. -/
theorem place_host_of_run (pass : Pass World Unit) (host owner : Cluster) (world : World) :
    (run pass host owner world).2.1.place = host.place := by
  unfold run
  split <;> rfl

end Pass

namespace PassCall

/-! ## Many passes -/

theorem onlyAddsFor_hostAfter (call : PassCall World) (host : Cluster) :
    Pass.OnlyAddsFor call.owner host.hostedEndpoints (call.hostAfter host).hostedEndpoints := by
  cases call with
  | reconcile client? owner world => exact Pass.onlyAddsFor_reconcile client? host owner world
  | delete owner world => exact Pass.onlyAddsFor_delete host owner world

/-- Names are unique, and every endpoint was made for the owner of one of the calls. -/
structure Explains (calls : List (PassCall World)) (endpoints : List PrivateEndpoint) : Prop where
  unique : UniqueNames endpoints
  made : ∀ endpoint ∈ endpoints, ∃ call ∈ calls, endpoint.IsMadeFor call.owner

/-- One more call explains what it adds. -/
theorem Explains.snoc {calls : List (PassCall World)} {before after : List PrivateEndpoint}
    (explains : Explains calls before) (call : PassCall World)
    (step : Pass.OnlyAddsFor call.owner before after) : Explains (calls ++ [call]) after := by
  rcases step with ⟨added, made, kept⟩
  constructor
  · exact (explains.unique.addAll added).sublist kept
  · intro endpoint member
    rcases mem_addAll.mp (kept.subset member) with present | ⟨-, found⟩
    · rcases explains.made endpoint present with ⟨earlier, among, madeFor⟩
      exact ⟨earlier, List.mem_append_left _ among, madeFor⟩
    · exact ⟨call, by simp, made endpoint (List.mem_of_find?_eq_some found)⟩

/-- A history explains all that a host has that hosted nothing before. -/
theorem explains_hostAfterAll (calls : List (PassCall World)) {host : Cluster}
    (fresh : host.hostedEndpoints = []) :
    Explains calls (hostAfterAll calls host).hostedEndpoints := by
  induction calls using List.reverseRecOn with
  | nil => constructor <;> simp [fresh, UniqueNames]
  | append_singleton earlier call ih =>
      rw [hostAfterAll_concat]
      exact ih.snoc call (onlyAddsFor_hostAfter call _)

/-- Whatever passes do, the host stays where it is. -/
theorem place_hostAfterAll (calls : List (PassCall World)) (host : Cluster) :
    (hostAfterAll calls host).place = host.place := by
  induction calls using List.reverseRecOn with
  | nil => rfl
  | append_singleton earlier call ih =>
      rw [hostAfterAll_concat, ← ih]
      cases call with
      | reconcile client? owner world => exact Pass.place_host_of_run _ _ _ _
      | delete owner world => exact Pass.place_host_of_run _ _ _ _

end PassCall

/-! ## A small landscape -/

namespace Landscape

/-- A management cluster that hosts nothing yet. -/
def management : Cluster :=
  { metadata := { name := some "management" },
    spec :=
      { subscriptionId := "hub", resourceGroup := "rg-management",
        network := { subnets := [{ name := "nodes", role := some Conventions.nodeRole }] } } }

/-- A workload cluster whose links are ready for the management cluster. -/
def workload (name : String) (links : List String) : Cluster :=
  { metadata := { name := some name },
    spec :=
      { subscriptionId := "spoke", resourceGroup := "rg-" ++ name,
        network :=
          { apiServerLoadBalancer := some
              { privateLinks := links.map ({ name := ·, allowedSubscriptions := ["hub"] }) } } },
    status :=
      some { conditions := [{ type := Conventions.linksReadyCondition, status := .true }] } }

def red : Cluster := workload "red" ["api"]

def blue : Cluster := workload "blue" ["api"]

def green : Cluster := workload "green" ["web"]

/-- The management cluster, connected to the red cluster already. -/
def connected : Cluster :=
  management.withSubnets
    [{ name := "nodes", role := some Conventions.nodeRole,
       endpoints :=
         [{ name := PrivateEndpoint.nameFor "api",
            connections := [{ privateLinkServiceId := red.linkId "api" }] }] }]

/-- A client for which every endpoint exists and has the same address. -/
def client : EndpointsClient Unit where
  lookup _ name world :=
    (.ok (some
      { name := some name,
        interfaces := [{ configurations := [{ address := some "10.0.0.4" }] }] }), world)

theorem steady : ∀ known ∈ some client, known.IsSteady := by
  rintro known ⟨⟩ group name world world'
  rfl

end Landscape

end ClusterLinks
