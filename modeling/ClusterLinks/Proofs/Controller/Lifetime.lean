import ClusterLinks.Proofs.Controller.Teardown
import ClusterLinks.Proofs.Store.Brackets

/-!
# How long the finalizer stays

The finalizer goes on before the first endpoint is made and comes off after the last one is gone. So
at any time, even between two calls of one run, a management cluster with an endpoint for a link of
the workload cluster means that the workload cluster has the finalizer. Calls may fail, with effect
or without, and the deletion of the workload cluster may be asked for and completed while a run is
on its way.
-/

namespace ClusterLinks.Controller

open Endpoints ClusterLinks.Shelf

variable {World Inner : Type} {view : World → Shelf} {store : ClusterStore World}
variable {clients : ClientFactory World} {settings : ControllerSettings}
variable {key : ObjectKey} {links : List PrivateLink}
variable {management event : Cluster}

/-! ## What the passes leave -/

/-- Whatever the passes do, they do not give a name twice. -/
theorem uniqueNames_reconcilePrivate {part : World → Inner} (spares : clients.Spares part) :
    (reconcilePrivate clients).Keeps fun before after =>
      UniqueNames before.management.current.hostedEndpoints →
        UniqueNames after.management.current.hostedEndpoints := by
  refine reconcilePrivate_keeps spares ?_ ?_ ?_ ?_ ?_
  · exact fun _ => id
  · exact fun before after unique => after (before unique)
  · exact fun _ _ => id
  · intro client _ workspace unique
    obtain ⟨added, -, kept⟩ := Pass.onlyAddsFor_reconcile (some client)
      workspace.management.current workspace.workload.current workspace.world
    exact (unique.addAll added).sublist kept
  · exact fun _ _ _ _ _ => id

/-- A deletion that succeeds leaves no endpoint for the links of the cluster. -/
theorem not_hasEndpointFor_withoutEndpoints (unique : UniqueNames management.hostedEndpoints)
    (succeeds : (withoutEndpoints management event).1 = .ok ()) :
    ¬ (withoutEndpoints management event).2.HasEndpointFor event.privateLinks := by
  intro has
  obtain ⟨endpoint, member, named⟩ := has
  have sameSubscription : (withoutEndpoints management event).2.spec.subscriptionId =
      management.spec.subscriptionId :=
    Cluster.eq_of_core_eq (·.spec.subscriptionId) (fun _ => rfl) (core_withoutEndpoints _ _)
  have kept : (withoutEndpoints management event).2.hostedEndpoints = _ :=
    (Pass.hostedEndpoints_of_delete unique event ()).2
  rw [kept, List.mem_filter, decide_eq_true_iff] at member
  rw [sameSubscription] at named
  exact member.2 ⟨succeeds, named⟩

theorem passOutcome_eq_ok {pass flush : Except Error Unit}
    (succeeds : passOutcome pass [flush] = .ok ()) : pass = .ok () ∧ flush = .ok () := by
  cases flush with
  | error error =>
      obtain ⟨error', fails⟩ := passOutcome_of_failed_flush pass error
      cases fails.symm.trans succeeds
  | ok done =>
      rw [passOutcome_of_flushed pass (by simp)] at succeeds
      exact ⟨succeeds, rfl⟩

/-! ## Runs for a cluster that stays -/

/-- A management cluster that is loaded was there when it was loaded. -/
theorem loadManagement_upholds {others : Shelf → Shelf → Prop} {fit pre : Shelf → Prop}
    (faulty : store.IsFaulty others view) (stableFit : IsStable others fit)
    (stable : IsStable others pre) :
    (loadManagement settings (store.recorded view)).Upholds view fit pre fun scope shelf =>
      pre shelf ∧ ∃ management, shelf.get? settings.managementCluster = some management ∧
        scope = .ofCluster management := by
  apply (faulty.upholds_load stableFit stable settings.managementCluster).bind
  intro scope?
  cases scope? with
  | none => exact Action.Upholds.fail _
  | some scope =>
      apply Action.Upholds.pure
      intro shelf _ found
      obtain ⟨management, there, rfl⟩ := Option.map_eq_some_iff.mp found.2
      exact ⟨found.1, management, there, rfl⟩

section Runs

variable (faulty : store.IsFaulty (DeletionSteps key) view)

include faulty

variable (apart : settings.managementCluster ≠ key)

include apart

/-- After the first step a workload cluster that is there has the finalizer. -/
theorem ensureFinalizer_upholds (keyed : event.key = key) :
    (ensureFinalizer (store.recorded view) event).Upholds view
      (IsBracketed settings.managementCluster key links)
      (fun shelf => event.hasFinalizer Conventions.finalizer = true → shelf.IsHeld key)
      fun _ => IsAdmitted key := by
  unfold ensureFinalizer
  split
  · next has =>
    apply Action.Upholds.pure
    intro shelf _ held
    exact (held has).isAdmitted
  · have added : ((store.recorded view).addFinalizer event.key Conventions.finalizer).Upholds view
        (IsBracketed settings.managementCluster key links) (fun _ => True)
        fun _ => IsAdmitted key := by
      apply Action.Upholds.change (faulty.addFinalizer event.key Conventions.finalizer)
        (isStable_isBracketed _ _ _) isStable_true
      intro shelf bracketed _
      rw [keyed]
      exact bracketed.addFinalizer apart
    exact added.of_imp fun _ _ _ => trivial

/-- Two loaded clusters may be worked on as long as the finalizer is there, and both may be kept in
any state that the passes leave. -/
theorem reconcileLoaded_upholds (spares : clients.Spares view) {workload : Cluster}
    (managed : management.key = settings.managementCluster)
    (unique : UniqueNames management.hostedEndpoints) (keyed : workload.key = key)
    (declared : workload.privateLinks = links)
    (has : workload.hasFinalizer Conventions.finalizer = true) :
    (reconcileLoaded settings (store.recorded view) clients.recorded (.ofCluster management)
        (.ofCluster workload)).Upholds view
      (IsBracketed settings.managementCluster key links) (IsHeld key) fun _ _ => True := by
  intro recorded isFit held
  let workspace : Workspace (Recorded World) :=
    ⟨.ofCluster management, .ofCluster workload, recorded⟩
  let passes := (reconcilePrivate clients.recorded workspace).2
  have stays := stays_reconcilePrivate spares.recorded workspace
  obtain ⟨sameView, sameCalls⟩ := Prod.mk.inj stays.world
  have isFit' : passes.world.IsFit view (IsBracketed settings.managementCluster key links) :=
    ⟨sameCalls ▸ isFit.logged, sameView ▸ isFit.now⟩
  have first : (passes.management.close (store.recorded view)).Upholds view
      (IsBracketed settings.managementCluster key links) (IsHeld key) fun _ _ => True := by
    apply faulty.upholds_close (isStable_isBracketed _ _ _) (isStable_isHeld _)
    · intro shelf bracketed held
      refine ⟨bracketed.put_management apart ?_ ?_ (.inl held), trivial⟩
      · exact (Cluster.key_of_core_eq stays.managementCore).trans managed
      · exact uniqueNames_reconcilePrivate clients.recorded_spares_calls workspace unique
    · intro _ _ _ _
      trivial
  -- The workload cluster brings the finalizer along, so its flush relies on nothing, not even on
  -- the outcome of the first one.
  have second : (passes.workload.close (store.recorded view)).Upholds view
      (IsBracketed settings.managementCluster key links) (fun _ => True) fun _ _ => True := by
    apply faulty.upholds_close (isStable_isBracketed _ _ _) isStable_true
    · intro shelf bracketed _
      refine ⟨bracketed.put_workload apart ?_ ?_ (.inl ?_), trivial⟩
      · exact (Cluster.key_of_core_eq stays.workloadCore).trans keyed
      · exact (Cluster.privateLinks_of_core_eq stays.workloadCore).trans declared
      · exact (Cluster.hasFinalizer_of_core_eq stays.workloadCore _).trans has
    · intro _ _ _ _
      trivial
  have afterFirst := (first passes.world isFit' (sameView ▸ held)).1
  rw [reconcileLoaded_run]
  exact ⟨(second _ afterFirst trivial).1, fun _ _ => trivial⟩

/-- Once the workload cluster is admitted, the rest of the run keeps to the order. -/
theorem afterAdmission_upholds (spares : clients.Spares view) :
    (afterAdmission settings (store.recorded view) clients.recorded key).Upholds view
      (IsBracketed settings.managementCluster key links) (IsAdmitted key)
      fun _ _ => True := by
  unfold afterAdmission
  apply (faulty.upholds_load (isStable_isBracketed _ _ _) (isStable_isAdmitted _) key).bind
  intro workload?
  cases workload? with
  | none => exact Action.Upholds.pure fun _ _ _ => trivial
  | some workload =>
      intro recorded isFit holds
      obtain ⟨admitted, loaded⟩ := holds
      obtain ⟨stored, there, rfl⟩ := Option.map_eq_some_iff.mp loaded
      have rest : (loadManagement settings (store.recorded view) >>= fun management =>
          reconcileLoaded settings (store.recorded view) clients.recorded management
            (.ofCluster stored)).Upholds view
          (IsBracketed settings.managementCluster key links) (IsHeld key) fun _ _ => True := by
        apply (loadManagement_upholds faulty (isStable_isBracketed _ _ _)
          (isStable_isHeld _)).bind
        intro scope recorded' isFit' holds
        obtain ⟨held, management, managed, rfl⟩ := holds
        have managedKey := (view recorded'.world).keyed managed
        have unique := isFit'.now.unique management managed
        have keyed := (view recorded.world).keyed there
        have declared := isFit.now.declared stored there
        exact reconcileLoaded_upholds faulty apart spares managedKey unique keyed declared
          (admitted stored there) recorded' isFit' held
      exact rest recorded isFit ⟨stored, there, admitted stored there⟩

theorem reconcileInternal_upholds (spares : clients.Spares view) (keyed : event.key = key) :
    (reconcileInternal settings (store.recorded view) clients.recorded event).Upholds view
      (IsBracketed settings.managementCluster key links)
      (fun shelf => event.hasFinalizer Conventions.finalizer = true → shelf.IsHeld key)
      fun _ _ => True := by
  rw [reconcileInternal_eq]
  apply (ensureFinalizer_upholds faulty apart keyed).bind
  intro _
  rw [keyed]
  exact afterAdmission_upholds faulty apart spares

/-! ## Runs for a cluster that is being deleted -/

/-- If the endpoints were found and flushing the management cluster has succeeded, then it has no
endpoints for the links any more. -/
theorem flush_upholds (declared : event.privateLinks = links) :
    ((ClusterScope.mk management (withoutEndpoints management event).2).close
        (store.recorded view)).Upholds view
      (IsBracketed settings.managementCluster key links)
      (fun shelf => shelf.get? settings.managementCluster = some management)
      fun _ shelf => (withoutEndpoints management event).1 = .ok () →
        shelf.IsCleared settings.managementCluster links := by
  have cleared (unique : UniqueNames management.hostedEndpoints)
      (succeeds : (withoutEndpoints management event).1 = .ok ()) {shelf : Shelf}
      (there : shelf.get? settings.managementCluster =
        some (withoutEndpoints management event).2) :
      shelf.IsCleared settings.managementCluster links := by
    intro other stored
    cases there.symm.trans stored
    rw [← declared]
    exact not_hasEndpointFor_withoutEndpoints unique succeeds
  apply faulty.upholds_close (isStable_isBracketed _ _ _) (isStable_get?_of_ne apart _)
  · intro shelf bracketed managed
    have sameCore := core_withoutEndpoints management event
    have fewer := hostedEndpoints_withoutEndpoints_sublist management event
    have unique := bracketed.unique management managed
    have managedKey := (Cluster.key_of_core_eq sameCore).trans (shelf.keyed managed)
    constructor
    · apply bracketed.put_management apart managedKey (unique.sublist fewer)
      cases bracketed.guarded with
      | inl held => exact .inl held
      | inr none => exact .inr fun has => none management managed (has.of_sublist sameCore fewer)
    · intro succeeds
      exact cleared unique succeeds (get?_put_self shelf managedKey)
  · intro clean shelf bracketed managed succeeds
    apply cleared (bracketed.unique management managed) succeeds
    rw [managed]
    exact congrArg some clean

/-- The finalizer comes off only after the endpoints. -/
theorem tearDown_upholds (keyed : event.key = key) (declared : event.privateLinks = links) :
    (tearDown (store.recorded view) event (.ofCluster management)).Upholds view
      (IsBracketed settings.managementCluster key links)
      (fun shelf => shelf.get? settings.managementCluster = some management)
      fun _ _ => True := by
  let without := withoutEndpoints management event
  have steps : tearDown (store.recorded view) event (.ofCluster management) = (do
      let flush ← ((ClusterScope.mk management without.2).close (store.recorded view)).attempt
      Action.ofExcept (passOutcome without.1 [flush])
      (store.recorded view).removeFinalizer event.key Conventions.finalizer
      pure (.onChange, .success)) := rfl
  have removed : ((store.recorded view).removeFinalizer event.key Conventions.finalizer).Upholds
      view (IsBracketed settings.managementCluster key links)
      (IsCleared settings.managementCluster links) fun _ _ => True := by
    apply Action.Upholds.change (faulty.removeFinalizer event.key Conventions.finalizer)
      (isStable_isBracketed _ _ _) (isStable_isCleared _ _ _)
    intro shelf bracketed cleared
    rw [keyed]
    exact ⟨bracketed.removeFinalizer apart cleared, trivial⟩
  rw [steps]
  apply (flush_upholds faulty apart declared).attempt.bind
  intro flush
  -- A pass or a flush that has failed ends the run here.
  have decided : (Action.ofExcept (passOutcome without.1 [flush]) :
      Action (Recorded World) Unit).Upholds view
      (IsBracketed settings.managementCluster key links)
      (fun shelf => ∀ done, flush = .ok done → without.1 = .ok () →
        shelf.IsCleared settings.managementCluster links)
      fun _ => IsCleared settings.managementCluster links := by
    apply Action.Upholds.ofExcept
    intro done succeeds shelf _ cleared
    obtain ⟨found, flushed⟩ := passOutcome_eq_ok succeeds
    exact cleared () flushed found
  apply decided.bind
  intro _
  apply removed.bind
  intro _
  exact Action.Upholds.pure fun _ _ => id

theorem handleDeletion_upholds (keyed : event.key = key) (declared : event.privateLinks = links) :
    (handleDeletion settings (store.recorded view) event).Upholds view
      (IsBracketed settings.managementCluster key links) (fun _ => True) fun _ _ => True := by
  cases has : event.hasFinalizer Conventions.finalizer with
  | false =>
      intro recorded isFit _
      rw [handleDeletion_of_not_hasFinalizer has]
      exact ⟨isFit, fun _ _ => trivial⟩
  | true =>
      rw [handleDeletion_of_hasFinalizer has]
      apply (loadManagement_upholds faulty (isStable_isBracketed _ _ _) isStable_true).bind
      intro scope recorded isFit holds
      obtain ⟨-, management, managed, rfl⟩ := holds
      exact tearDown_upholds faulty apart keyed declared recorded isFit managed

end Runs

/-- A run for the workload cluster as it is stored keeps finalizer and endpoints in order. -/
theorem reconcile_upholds (faulty : store.IsFaulty (DeletionSteps key) view)
    (spares : clients.Spares view) :
    (reconcile settings (store.recorded view) clients.recorded event).Upholds view
      (IsBracketed settings.managementCluster key links)
      (fun shelf => shelf.get? key = some event) fun _ _ => True := by
  intro recorded isFit there
  have keyed := (view recorded.world).keyed there
  have declared := isFit.now.declared event there
  unfold reconcile
  split
  · exact ⟨isFit, fun _ _ => trivial⟩
  · next other =>
    have apart : settings.managementCluster ≠ key := fun same => other (keyed.trans same.symm)
    split
    · exact handleDeletion_upholds faulty apart keyed declared recorded isFit trivial
    · cases event.loadBalancerType with
      | external => exact ⟨isFit, fun _ _ => trivial⟩
      | other name => exact ⟨isFit, fun _ _ => trivial⟩
      | internal =>
          apply reconcileInternal_upholds faulty apart spares keyed recorded isFit
          intro has
          exact ⟨event, there, has⟩

/-! ## Turns -/

/-- The controller has a turn, or others have one. -/
inductive Turn (World : Type) where
  | reconcile (store : ClusterStore World) (clients : ClientFactory World)
  | others (change : World → World)

namespace Turn

/-- The world after a turn. The controller looks at the workload cluster as it is stored. -/
def take (view : World → Shelf) (settings : ControllerSettings) (key : ObjectKey)
    (recorded : Recorded World) : Turn World → Recorded World
  | .reconcile store clients =>
      match (view recorded.world).get? key with
      | some workload =>
          (Controller.reconcile settings (store.recorded view) clients.recorded workload recorded).2
      | none => recorded
  | .others change => { recorded with world := change recorded.world }

/-- The world after turns, one after the other. -/
def takeAll (view : World → Shelf) (settings : ControllerSettings) (key : ObjectKey)
    (turns : List (Turn World)) (recorded : Recorded World) : Recorded World :=
  turns.foldl (take view settings key) recorded

/-- Calls to the store may fail in any way and clients may find anything; others only see to the
deletion of the workload cluster. -/
def IsAllowed (view : World → Shelf) (key : ObjectKey) : Turn World → Prop
  | .reconcile store clients =>
      store.IsFaulty (DeletionSteps key) view ∧ clients.Spares view
  | .others change => ∀ world, DeletionSteps key (view world) (view (change world))

theorem isFit_take {recorded : Recorded World} {turn : Turn World}
    (allowed : turn.IsAllowed view key)
    (isFit : recorded.IsFit view (IsBracketed settings.managementCluster key links)) :
    (take view settings key recorded turn).IsFit view
      (IsBracketed settings.managementCluster key links) := by
  cases turn with
  | reconcile store clients =>
      obtain ⟨faulty, spares⟩ := allowed
      rw [take]
      cases there : (view recorded.world).get? key with
      | none => exact isFit
      | some workload => exact (reconcile_upholds faulty spares recorded isFit there).1
  | others change =>
      exact ⟨isFit.logged, isStable_isBracketed _ _ _ (allowed recorded.world) isFit.now⟩

theorem isFit_takeAll {recorded : Recorded World} {turns : List (Turn World)}
    (allowed : ∀ turn ∈ turns, turn.IsAllowed view key)
    (isFit : recorded.IsFit view (IsBracketed settings.managementCluster key links)) :
    (takeAll view settings key turns recorded).IsFit view
      (IsBracketed settings.managementCluster key links) := by
  induction turns generalizing recorded with
  | nil => exact isFit
  | cons turn rest ih =>
      apply ih
      · exact fun other member => allowed other (List.mem_cons_of_mem _ member)
      · exact isFit_take (allowed turn List.mem_cons_self) isFit

end Turn

/-- Start from a management cluster with unique names and without endpoints for the links of a
workload cluster. Then after every single call of the runs for that workload cluster, the management
cluster has such an endpoint only if the workload cluster has the finalizer. -/
theorem finalizer_brackets_endpoints (settings : ControllerSettings) (key : ObjectKey)
    (links : List PrivateLink) (turns : List (Turn World)) (world : World)
    (allowed : ∀ turn ∈ turns, turn.IsAllowed view key)
    (declared : ∀ workload, (view world).get? key = some workload →
      workload.privateLinks = links)
    (fresh : ∀ management, (view world).get? settings.managementCluster = some management →
      UniqueNames management.hostedEndpoints ∧ ¬ management.HasEndpointFor links) :
    ∀ record ∈ (Turn.takeAll view settings key turns (.start world)).calls, ∀ management,
      record.shelf.get? settings.managementCluster = some management →
        management.HasEndpointFor links →
          ∃ workload, record.shelf.get? key = some workload ∧
            workload.hasFinalizer Conventions.finalizer = true := by
  have isFit : (Recorded.start world).IsFit view
      (IsBracketed settings.managementCluster key links) := by
    constructor
    · intro record member
      cases member
    · constructor
      · exact fun management there => (fresh management there).1
      · exact declared
      · exact .inr fun management there => (fresh management there).2
  intro record member management there has
  cases ((Turn.isFit_takeAll allowed isFit).logged record member).guarded with
  | inl held => exact held
  | inr cleared => exact absurd has (cleared management there)

namespace Turn

open Landscape

/-- The red cluster is connected, its deletion is asked for, and two attempts are made at it. -/
def turns : List (Turn FlakyShelf) :=
  [.reconcile FlakyShelf.store (clientFactory FlakyShelf),
    .others fun world =>
      { world with shelf := world.shelf.change privateRed.key (·.requestDeletion ⟨0, 0⟩) },
    .reconcile FlakyShelf.store (clientFactory FlakyShelf),
    .reconcile FlakyShelf.store (clientFactory FlakyShelf)]

theorem isAllowed_turns : ∀ turn ∈ turns, turn.IsAllowed (·.shelf) privateRed.key := by
  have visit : (Turn.reconcile FlakyShelf.store (clientFactory FlakyShelf)).IsAllowed (·.shelf)
      privateRed.key :=
    ⟨FlakyShelf.isUnreliable_store.isFaulty fun _ => .refl, clientFactory_spares _⟩
  intro turn member
  simp only [turns, List.mem_cons, List.not_mem_nil, or_false] at member
  obtain rfl | rfl | rfl | rfl := member
  · exact visit
  · intro world
    exact .single (.requested world.shelf ⟨0, 0⟩)
  · exact visit
  · exact visit

end Turn

open Landscape in
/-- There is a time when the management cluster has an endpoint for the red cluster, in the end the
red cluster has lost the finalizer, and in between the order was kept. -/
theorem red_is_held_while_connected :
    let after := Turn.takeAll (·.shelf) controllerSettings privateRed.key Turn.turns
      (.start flaky)
    (∃ record ∈ after.calls, ∃ management' ∈ record.shelf.get? controllerSettings.managementCluster,
        management'.HasEndpointFor privateRed.privateLinks) ∧
      (∃ left ∈ after.world.shelf.get? privateRed.key,
        left.hasFinalizer Conventions.finalizer = false) ∧
      ∀ record ∈ after.calls, ∀ management',
        record.shelf.get? controllerSettings.managementCluster = some management' →
          management'.HasEndpointFor privateRed.privateLinks →
            ∃ workload, record.shelf.get? privateRed.key = some workload ∧
              workload.hasFinalizer Conventions.finalizer = true := by
  intro after
  refine ⟨by decide +kernel, by decide +kernel, ?_⟩
  have stored : flaky.shelf.get? privateRed.key = some privateRed := by decide +kernel
  have managed : flaky.shelf.get? controllerSettings.managementCluster =
      some Landscape.management := by
    decide +kernel
  apply finalizer_brackets_endpoints controllerSettings privateRed.key privateRed.privateLinks
    Turn.turns flaky Turn.isAllowed_turns
  · intro workload there
    cases there.symm.trans stored
    rfl
  · intro found there
    cases there.symm.trans managed
    decide +kernel

end ClusterLinks.Controller
