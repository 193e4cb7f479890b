import ClusterLinks.Proofs.Controller.Runs

/-!
# What is left after a deletion

Endpoints are taken away by the names of the links that a cluster publishes when it is deleted. They
were made for the links that it published when it was visited. Between the two its links may have
changed, so a deletion that succeeds leaves exactly those endpoints that are not named for a link
of the day, and all of them still lead to the cluster.
-/

namespace ClusterLinks.Controller

open Endpoints

variable {World : Type} {view : World → Shelf} {store : ClusterStore World}
variable {clients : ClientFactory World} {settings : ControllerSettings}
variable {place : String × String}

/-! ## Endpoints that lead to one place -/

/-- Names are unique, and every endpoint was made for a link at the place. -/
structure BelongTo (place : String × String) (endpoints : List PrivateEndpoint) : Prop where
  unique : UniqueNames endpoints
  made : ∀ endpoint ∈ endpoints, ∃ owner : Cluster, owner.place = place ∧ endpoint.IsMadeFor owner

theorem BelongTo.nil (place : String × String) : BelongTo place [] :=
  ⟨by simp [UniqueNames], by simp⟩

/-- A pass for a cluster at the place adds nothing that belongs elsewhere. -/
theorem BelongTo.step {before after : List PrivateEndpoint} {owner : Cluster}
    (belong : BelongTo place before) (there : owner.place = place)
    (step : Pass.OnlyAddsFor owner before after) : BelongTo place after := by
  rcases step with ⟨added, made, kept⟩
  constructor
  · exact (belong.unique.addAll added).sublist kept
  · intro endpoint member
    rcases mem_addAll.mp (kept.subset member) with present | ⟨-, found⟩
    · exact belong.made endpoint present
    · exact ⟨owner, there, made endpoint (List.mem_of_find?_eq_some found)⟩

theorem BelongTo.sublist {before after : List PrivateEndpoint} (belong : BelongTo place before)
    (fewer : after.Sublist before) : BelongTo place after :=
  ⟨belong.unique.sublist fewer, fun endpoint member => belong.made endpoint (fewer.subset member)⟩

/-- What was made for a link at the place of a cluster leads to that cluster. -/
theorem BelongTo.leadsInto {endpoints : List PrivateEndpoint} {cluster : Cluster}
    (belong : BelongTo cluster.place endpoints) {endpoint : PrivateEndpoint}
    (member : endpoint ∈ endpoints) :
    endpoint.leadsInto cluster.spec.subscriptionId cluster.spec.resourceGroup = true := by
  rcases belong.made endpoint member with ⟨owner, there, link, -, -, only⟩
  rw [only.leadsInto_eq, Cluster.linkId_of_place_eq there]
  exact ResourceId.isInGroup_privateLink _ _ _

/-- The workload cluster keeps its core, and what the management cluster hosts belongs to the place
of the workload cluster if it did before. -/
def KeepsBelonging (place : String × String) (before after : Workspace World) : Prop :=
  after.workload.current.core = before.workload.current.core ∧
    (before.workload.current.place = place →
      BelongTo place before.management.current.hostedEndpoints →
      BelongTo place after.management.current.hostedEndpoints)

theorem keepsBelonging_reconcilePrivate (spares : clients.Spares view)
    (place : String × String) : (reconcilePrivate clients).Keeps (KeepsBelonging place) := by
  refine reconcilePrivate_keeps spares ?_ ?_ ?_ ?_ ?_
  · exact fun _ => ⟨rfl, fun _ belong => belong⟩
  · intro first second third before after
    refine ⟨after.1.trans before.1, fun there belong => after.2 ?_ (before.2 there belong)⟩
    rwa [Cluster.place_of_core_eq before.1]
  · exact fun _ _ => ⟨rfl, fun _ belong => belong⟩
  · intro client _ workspace
    let pass := Pass.reconcile (some client)
    refine ⟨Pass.core_owner_of_run pass workspace.management.current _ _, ?_⟩
    intro there belong
    exact belong.step there (Pass.onlyAddsFor_reconcile (some client) _ _ _)
  · intro client _ identity link workspace
    let pass := Pass.ingress (some client) identity link
    exact ⟨Pass.core_of_runAlone pass workspace.workload.current _, fun _ belong => belong⟩

/-! ## Stores that know one cluster -/

/-- The management cluster has endpoints to one place only, and the cluster with the key is
there. -/
structure IsTidy (managementKey key : ObjectKey) (place : String × String) (shelf : Shelf) :
    Prop where
  managed : ∀ management, shelf.get? managementKey = some management →
    BelongTo place management.hostedEndpoints
  stored : ∀ workload, shelf.get? key = some workload → workload.place = place

namespace IsTidy

variable {managementKey key : ObjectKey} {shelf : Shelf}

theorem put (tidy : IsTidy managementKey key place shelf) {cluster : Cluster}
    (managed : cluster.key = managementKey → BelongTo place cluster.hostedEndpoints)
    (stored : cluster.key = key → cluster.place = place) :
    IsTidy managementKey key place (shelf.put cluster) := by
  constructor
  · intro management found
    rw [Shelf.get?_put] at found
    split at found
    · next same => exact Option.some.inj found ▸ managed same
    · exact tidy.managed management found
  · intro workload found
    rw [Shelf.get?_put] at found
    split at found
    · next same => exact Option.some.inj found ▸ stored same
    · exact tidy.stored workload found

/-- A change to the cluster with the key that does not move it. -/
theorem change (tidy : IsTidy managementKey key place shelf) (apart : managementKey ≠ key)
    {change : Cluster → Cluster} (keyed : ∀ cluster, (change cluster).key = cluster.key)
    (stays : ∀ cluster, (change cluster).place = cluster.place) :
    IsTidy managementKey key place (shelf.change key change) := by
  cases there : shelf.get? key with
  | none => rwa [Shelf.change_of_absent there]
  | some workload =>
      rw [Shelf.change_of_get? there]
      have sameKey : (change workload).key = key := (keyed _).trans (shelf.keyed there)
      apply tidy.put
      · exact fun same => absurd (same.symm.trans sameKey) apart
      · exact fun _ => (stays workload).trans (tidy.stored workload there)

end IsTidy

/-! ## Visits -/

/-- A run for a cluster that is at the place leaves endpoints to that place only. -/
theorem isTidy_reconcileInternal (unreliable : store.IsUnreliable view)
    (spares : clients.Spares view) {event : Cluster}
    (apart : settings.managementCluster ≠ event.key) {world : World}
    (tidy : IsTidy settings.managementCluster event.key place (view world)) :
    IsTidy settings.managementCluster event.key place
      (view (reconcileInternal settings store clients event world).2) := by
  have admission : IsTidy settings.managementCluster event.key place
      (admitted event (view world)) := by
    unfold admitted
    split
    · exact tidy
    · apply tidy.change apart (Cluster.key_addFinalizer _)
      intro cluster
      unfold Cluster.addFinalizer
      split <;> rfl
  rcases reconcileInternal_of_isUnreliable unreliable spares apart world with
    kept | admittedOnly | ⟨management, workload, between, managed, stored, kept⟩
  · rwa [kept]
  · rwa [admittedOnly]
  · have stays := stays_reconcilePrivate spares
      ⟨.ofCluster management, .ofCluster workload, between⟩
    have belonging := keepsBelonging_reconcilePrivate spares place
      ⟨.ofCluster management, .ofCluster workload, between⟩
    have there := admission.stored workload stored
    have belong := admission.managed management managed
    rcases kept with ⟨management', workload', isManagement, isWorkload, after⟩
    have key : management'.key = settings.managementCluster := by
      rcases isManagement with rfl | rfl
      · exact (admitted event (view world)).keyed managed
      · exact (Cluster.key_of_core_eq stays.managementCore).trans
          ((admitted event (view world)).keyed managed)
    have key' : workload'.key = event.key := by
      rcases isWorkload with rfl | rfl
      · exact (admitted event (view world)).keyed stored
      · exact (Cluster.key_of_core_eq stays.workloadCore).trans
          ((admitted event (view world)).keyed stored)
    rw [after]
    refine (admission.put ?_ ?_).put ?_ ?_
    · intro _
      rcases isManagement with rfl | rfl
      · exact belong
      · exact belonging.2 there belong
    · exact fun same => absurd (key.symm.trans same) apart
    · exact fun same => absurd (same.symm.trans key') apart
    · intro _
      rcases isWorkload with rfl | rfl
      · exact there
      · exact (Cluster.place_of_core_eq belonging.1).trans there

theorem hostedEndpoints_withoutEndpoints_sublist (management event : Cluster) :
    (withoutEndpoints management event).2.hostedEndpoints.Sublist management.hostedEndpoints := by
  cases hosts : EndpointDirectory.ofCluster management with
  | error error => simp [withoutEndpoints, Pass.run, hosts]
  | ok endpoints =>
    cases owns : LinkDirectory.ofCluster event with
    | error error => simp [withoutEndpoints, Pass.run, hosts, owns]
    | ok links =>
        rw [withoutEndpoints_of_directories hosts owns,
          EndpointDirectory.hostedEndpoints_withSubnets_update hosts,
          Pass.removeWanted_eq_removeNames]
        exact removeNames_sublist _ _

theorem isTidy_handleDeletion (unreliable : store.IsUnreliable view) {event : Cluster}
    (apart : settings.managementCluster ≠ event.key) {world : World}
    (tidy : IsTidy settings.managementCluster event.key place (view world)) :
    IsTidy settings.managementCluster event.key place
      (view (handleDeletion settings store event world).2) := by
  cases has : event.hasFinalizer Conventions.finalizer with
  | false => rwa [handleDeletion_of_not_hasFinalizer has]
  | true =>
      rcases handleDeletion_of_isUnreliable settings unreliable has world with
        ⟨kept, -⟩ | ⟨management, managed, made⟩
      · rwa [kept]
      · have keyed : (withoutEndpoints management event).2.key = settings.managementCluster :=
          (Cluster.key_of_core_eq (core_withoutEndpoints _ _)).trans ((view world).keyed managed)
        have flushed : IsTidy settings.managementCluster event.key place
            ((view world).put (withoutEndpoints management event).2) := by
          apply tidy.put
          · exact fun _ => (tidy.managed management managed).sublist
              (hostedEndpoints_withoutEndpoints_sublist management event)
          · exact fun same => absurd (keyed.symm.trans same) apart
        rcases made with ⟨kept, -⟩ | ⟨-, -, kept⟩
        · rwa [kept]
        · rw [kept]
          exact flushed.change apart (Cluster.key_removeFinalizer _) fun _ => rfl

/-- Whatever a run is made for, it leaves endpoints to the place of its cluster only. -/
theorem isTidy_reconcile (unreliable : store.IsUnreliable view) (spares : clients.Spares view)
    (event : Cluster) {world : World}
    (tidy : IsTidy settings.managementCluster event.key place (view world)) :
    IsTidy settings.managementCluster event.key place
      (view (reconcile settings store clients event world).2) := by
  unfold reconcile
  split
  · exact tidy
  · next other =>
    split
    · exact isTidy_handleDeletion unreliable (Ne.symm other) tidy
    · cases event.loadBalancerType with
      | external => exact tidy
      | internal => exact isTidy_reconcileInternal unreliable spares (Ne.symm other) tidy
      | other name => exact tidy

/-- A run of the controller, or something that somebody else does to the store. -/
inductive Visit (World : Type) where
  | run (store : ClusterStore World) (clients : ClientFactory World) (event : Cluster)
  | edit (change : World → World)

namespace Visit

/-- The world after a visit. -/
def worldAfter (settings : ControllerSettings) : Visit World → World → World
  | .run store clients event, world => (reconcile settings store clients event world).2
  | .edit change, world => change world

/-- The world after visits, one after the other. -/
def worldAfterAll (settings : ControllerSettings) (visits : List (Visit World)) (world : World) :
    World :=
  visits.foldl (fun world visit => visit.worldAfter settings world) world

/-- A visit to one cluster: a run is for the cluster with the key, and an edit leaves the management
cluster alone and does not take that cluster from its place. -/
def IsTo (view : World → Shelf) (managementKey key : ObjectKey) (place : String × String) :
    Visit World → Prop
  | .run store clients event =>
      store.IsUnreliable view ∧ clients.Spares view ∧ event.key = key
  | .edit change =>
      ∀ world,
        (view (change world)).get? managementKey = (view world).get? managementKey ∧
          ((∀ workload, (view world).get? key = some workload → workload.place = place) →
            ∀ workload, (view (change world)).get? key = some workload → workload.place = place)

theorem isTidy_worldAfterAll {key : ObjectKey} (visits : List (Visit World))
    (isTo : ∀ visit ∈ visits, visit.IsTo view settings.managementCluster key place) {world : World}
    (tidy : IsTidy settings.managementCluster key place (view world)) :
    IsTidy settings.managementCluster key place
      (view (worldAfterAll settings visits world)) := by
  induction visits generalizing world with
  | nil => exact tidy
  | cons visit rest ih =>
      apply ih fun other member => isTo other (List.mem_cons_of_mem _ member)
      have first := isTo visit List.mem_cons_self
      cases visit with
      | run store clients event =>
          rcases first with ⟨unreliable, spares, rfl⟩
          exact isTidy_reconcile unreliable spares event tidy
      | edit change =>
          rcases first world with ⟨same, stays⟩
          exact ⟨fun management found => tidy.managed management (same ▸ found),
            stays tidy.stored⟩

end Visit

/-! ## The last run -/

/-- A run that ends a deletion with success has taken the endpoints and then the finalizer away. -/
theorem deletion_of_success (unreliable : store.IsUnreliable view) {event : Cluster}
    (deleting : event.isDeleting = true) {look : NextLook} {world : World}
    (succeeds : (reconcile settings store clients event world).1 = .ok (look, .success)) :
    event.key ≠ settings.managementCluster ∧
      ∃ management, (view world).get? settings.managementCluster = some management ∧
        (withoutEndpoints management event).1 = .ok () ∧
        view (reconcile settings store clients event world).2 =
          ((view world).put (withoutEndpoints management event).2).change event.key
            (·.removeFinalizer Conventions.finalizer) := by
  unfold reconcile at succeeds ⊢
  by_cases itself : event.key = settings.managementCluster
  · simp [itself] at succeeds
  simp only [if_neg itself, if_pos deleting] at succeeds ⊢
  cases has : event.hasFinalizer Conventions.finalizer with
  | false => simp [handleDeletion_of_not_hasFinalizer has] at succeeds
  | true =>
      refine ⟨itself, ?_⟩
      rcases handleDeletion_of_isUnreliable settings unreliable has world with
        ⟨-, error, fails⟩ | ⟨management, managed, made⟩
      · cases succeeds.symm.trans fails
      · rcases made with ⟨-, error, fails⟩ | ⟨looked, -, kept⟩
        · cases succeeds.symm.trans fails
        · exact ⟨management, managed, looked, kept⟩

/-- After any history of visits to a cluster, starting from a management cluster without endpoints,
a deletion that succeeds leaves those endpoints that lead to the place of the cluster and are not
named for a link that it publishes for the management cluster at the time. -/
theorem mem_hostedEndpoints_of_teardown (visits : List (Visit World)) (world : World)
    (store : ClusterStore World) (clients : ClientFactory World) (event : Cluster) (look : NextLook)
    (fresh : ∀ management, (view world).get? settings.managementCluster = some management →
      management.hostedEndpoints = [])
    (placed : ∀ workload, (view world).get? event.key = some workload →
      workload.place = event.place)
    (isTo : ∀ visit ∈ visits,
      visit.IsTo view settings.managementCluster event.key event.place)
    (unreliable : store.IsUnreliable view) (deleting : event.isDeleting = true)
    (succeeds : (reconcile settings store clients event
      (Visit.worldAfterAll settings visits world)).1 = .ok (look, .success)) :
    let before := Visit.worldAfterAll settings visits world
    let after := (reconcile settings store clients event before).2
    ∃ management management',
      (view before).get? settings.managementCluster = some management ∧
      (view after).get? settings.managementCluster = some management' ∧
      ∀ endpoint,
        (endpoint ∈ management'.hostedEndpoints ∧
            endpoint.leadsInto event.spec.subscriptionId event.spec.resourceGroup = true) ↔
          endpoint ∈ management.hostedEndpoints ∧
            ∀ link ∈ PrivateLink.allowing event.privateLinks management.spec.subscriptionId,
              endpoint.name ≠ PrivateEndpoint.nameFor link.name := by
  intro before after
  have tidy : IsTidy settings.managementCluster event.key event.place (view before) := by
    apply Visit.isTidy_worldAfterAll visits isTo
    exact ⟨fun management found => (fresh management found) ▸ .nil _, placed⟩
  rcases deletion_of_success unreliable deleting succeeds with
    ⟨apart, management, managed, looked, afterIs⟩
  rcases Pass.directories_of_run_ok (show (Pass.run (Pass.delete : Pass Unit Unit) management event
    ()).1 = .ok () from looked) with ⟨endpoints, links, hosts, owns⟩
  have belong := tidy.managed management managed
  have changedKeyed : (withoutEndpoints management event).2.key = settings.managementCluster :=
    (Cluster.key_of_core_eq (core_withoutEndpoints _ _)).trans ((view before).keyed managed)
  refine ⟨management, (withoutEndpoints management event).2, managed, ?_, ?_⟩
  · rw [show view after = _ from afterIs,
      Shelf.get?_change_of_ne (Cluster.key_removeFinalizer _) apart,
      Shelf.get?_put_self _ changedKeyed]
  · intro endpoint
    have left : (withoutEndpoints management event).2.hostedEndpoints =
        management.hostedEndpoints.filter
          (!(Pass.wantedNames endpoints.identity links).contains ·.name) := by
      rw [withoutEndpoints_of_directories hosts owns,
        EndpointDirectory.hostedEndpoints_withSubnets_update hosts,
        Pass.removeWanted_of_unique belong.unique]
    rw [left, List.mem_filter, Pass.wantedNames, Pass.allowing_of_ofCluster hosts owns]
    have named : (!((PrivateLink.allowing event.privateLinks management.spec.subscriptionId).map
          (PrivateEndpoint.nameFor ·.name)).contains endpoint.name) = true ↔
        ∀ link ∈ PrivateLink.allowing event.privateLinks management.spec.subscriptionId,
          endpoint.name ≠ PrivateEndpoint.nameFor link.name := by
      rw [Bool.not_eq_true', ← Bool.not_eq_true, List.contains_iff_mem, List.mem_map]
      constructor
      · exact fun absent link allowed same => absent ⟨link, allowed, same.symm⟩
      · rintro apart ⟨link, allowed, same⟩
        exact apart link allowed same.symm
    rw [named]
    constructor
    · exact fun kept => kept.1
    · exact fun kept => ⟨kept, belong.leadsInto kept.1⟩

namespace Visit

open Landscape

/-- Somebody takes the link off a cluster and asks for its deletion. -/
def withdraw (cluster : Cluster) : Cluster :=
  { cluster with
    spec.network.apiServerLoadBalancer := some { type := some "Internal" },
    metadata.deletionTimestamp := some ⟨0, 0⟩ }

/-- The red cluster is visited, and then it is withdrawn. -/
def visits : List (Visit FlakyShelf) :=
  [.run FlakyShelf.clean (clientFactory FlakyShelf) privateRed,
    .edit fun world => { world with shelf := world.shelf.change privateRed.key withdraw }]

/-- The red cluster as it is stored after the visits. -/
def withdrawn : Cluster :=
  ((worldAfterAll controllerSettings visits flaky).shelf.get? privateRed.key).getD privateRed

end Visit

open Landscape Visit in
/-- The red cluster is deleted with success, and the endpoint to it stays. -/
theorem red_endpoint_left_behind :
    (management.hostedEndpoints = [] ∧
        (worldAfterAll controllerSettings visits flaky).shelf.get? withdrawn.key = some withdrawn ∧
        withdrawn.hasFinalizer Conventions.finalizer = true ∧ withdrawn.place = privateRed.place) ∧
      let deletion := reconcile controllerSettings FlakyShelf.clean (clientFactory FlakyShelf)
        withdrawn (worldAfterAll controllerSettings visits flaky)
      deletion.1 = .ok (.onChange, .success) ∧
        ∃ management' ∈ deletion.2.shelf.get? controllerSettings.managementCluster,
          ∃ endpoint ∈ management'.hostedEndpoints,
            endpoint.leadsInto withdrawn.spec.subscriptionId withdrawn.spec.resourceGroup =
              true := by
  decide +kernel

open Landscape Visit in
/-- What the deletion of the red cluster leaves is what the visits before it have made. -/
theorem mem_hostedEndpoints_after_withdrawal :
    let before := worldAfterAll controllerSettings visits flaky
    let after := (reconcile controllerSettings FlakyShelf.clean (clientFactory FlakyShelf) withdrawn
      before).2
    ∃ management management',
      before.shelf.get? controllerSettings.managementCluster = some management ∧
      after.shelf.get? controllerSettings.managementCluster = some management' ∧
      ∀ endpoint,
        (endpoint ∈ management'.hostedEndpoints ∧
            endpoint.leadsInto withdrawn.spec.subscriptionId withdrawn.spec.resourceGroup = true) ↔
          endpoint ∈ management.hostedEndpoints ∧
            ∀ link ∈ PrivateLink.allowing withdrawn.privateLinks management.spec.subscriptionId,
              endpoint.name ≠ PrivateEndpoint.nameFor link.name := by
  have managed : flaky.shelf.get? controllerSettings.managementCluster = some management := by
    decide +kernel
  have stored : flaky.shelf.get? withdrawn.key = some privateRed := by decide +kernel
  have apart : privateRed.key ≠ controllerSettings.managementCluster := by decide +kernel
  have sameKey : withdrawn.key = privateRed.key := by decide +kernel
  have samePlace : withdrawn.place = privateRed.place := by decide +kernel
  have fresh : ∀ found, flaky.shelf.get? controllerSettings.managementCluster = some found →
      found.hostedEndpoints = [] := by
    intro found isFound
    rw [managed, Option.some.injEq] at isFound
    exact isFound ▸ (by decide +kernel)
  have placed : ∀ found, flaky.shelf.get? withdrawn.key = some found →
      found.place = withdrawn.place := by
    intro found isFound
    rw [stored, Option.some.injEq] at isFound
    exact isFound ▸ samePlace.symm
  have isTo : ∀ visit ∈ visits, visit.IsTo (·.shelf) controllerSettings.managementCluster
      withdrawn.key withdrawn.place := by
    intro visit member
    rw [sameKey]
    simp only [visits, List.mem_cons, List.not_mem_nil, or_false] at member
    rcases member with rfl | rfl
    · exact ⟨FlakyShelf.isReliable_clean.isUnreliable, clientFactory_spares _, rfl⟩
    · intro world
      have keyed (cluster : Cluster) : (withdraw cluster).key = cluster.key := rfl
      refine ⟨Shelf.get?_change_of_ne keyed apart, ?_⟩
      intro there found isFound
      rw [Shelf.get?_change_self keyed, Option.map_eq_some_iff] at isFound
      rcases isFound with ⟨cluster, stored, rfl⟩
      exact there cluster stored
  exact mem_hostedEndpoints_of_teardown visits flaky FlakyShelf.clean (clientFactory FlakyShelf)
    withdrawn .onChange fresh placed isTo FlakyShelf.isReliable_clean.isUnreliable
    (by decide +kernel) (by decide +kernel)

end ClusterLinks.Controller
