import ClusterLinks.Controller
import ClusterLinks.Proofs.Pass.Findings

/-!
# The two passes of a run

A run makes one pass for the API server and one for the ingress. Neither touches what was loaded
nor the core of a cluster. With fixed answers the two of them are a plan, a function of the two
clusters, and the plan can be resumed from any mixture of clusters before and after it.
-/

namespace ClusterLinks

variable {World Inner α β : Type}

/-! ## What an action keeps -/

namespace Action

/-- The world before the action and the world after it are so related, whatever becomes of it. -/
def Keeps (related : World → World → Prop) (action : Action World α) : Prop :=
  ∀ world, related world (action world).2

variable {related : World → World → Prop} {action : Action World α} {next : α → Action World β}

theorem Keeps.bind (transitive : ∀ {first second third},
      related first second → related second third → related first third)
    (first : action.Keeps related)
    (rest : ∀ world value, (action world).1 = .ok value → (next value).Keeps related) :
    (action >>= next).Keeps related := by
  intro world
  have kept := first world
  have kept' := rest world
  rw [bind_run]
  cases answer : action world with
  | mk result after =>
    rw [answer] at kept kept'
    cases result with
    | error error => exact kept
    | ok value => exact transitive kept (kept' value rfl after)

theorem Keeps.of_unchanged (reflexive : ∀ world, related world world)
    (unchanged : ∀ world, (action world).2 = world) : action.Keeps related := by
  intro world
  rw [unchanged]
  exact reflexive world

end Action

/-- Finding a client and using it leave a part of the world as it is. -/
structure ClientFactory.Spares (clients : ClientFactory World) (view : World → Inner) : Prop where
  call : ∀ cluster world, view (clients.client cluster world).2 = view world
  client : ∀ cluster world client,
    (clients.client cluster world).1 = .ok client → client.Spares view

/-- There is one answer for every core, whatever goes on in the world: why there is no client, or
what its look-ups find. -/
def ClientFactory.Gives (clients : ClientFactory World)
    (answers : Cluster → Except Error Findings) : Prop :=
  ∀ cluster world,
    match answers cluster.core with
    | .error error => (clients.client cluster world).1 = .error error
    | .ok findings =>
        ∃ client, (clients.client cluster world).1 = .ok client ∧ client.Gives findings

/-- A factory that has the answers and no world. -/
def ClientFactory.ofAnswers (answers : Cluster → Except Error Findings) : ClientFactory Unit where
  client cluster := .ofExcept ((answers cluster.core).map Findings.client)

namespace Controller

/-- What the passes of a run never touch. -/
structure Workspace.Stays (view : World → Inner) (before after : Workspace World) : Prop where
  world : view after.world = view before.world
  managementLoaded : after.management.loaded = before.management.loaded
  workloadLoaded : after.workload.loaded = before.workload.loaded
  managementCore : after.management.current.core = before.management.current.core
  workloadCore : after.workload.current.core = before.workload.current.core

namespace Workspace.Stays

variable {view : World → Inner} {first second third : Workspace World}

theorem refl (view : World → Inner) (workspace : Workspace World) :
    Stays view workspace workspace :=
  ⟨rfl, rfl, rfl, rfl, rfl⟩

theorem trans (before : Stays view first second) (after : Stays view second third) :
    Stays view first third where
  world := after.world.trans before.world
  managementLoaded := after.managementLoaded.trans before.managementLoaded
  workloadLoaded := after.workloadLoaded.trans before.workloadLoaded
  managementCore := after.managementCore.trans before.managementCore
  workloadCore := after.workloadCore.trans before.workloadCore

end Workspace.Stays

variable {view : World → Inner} {clients : ClientFactory World}

/-- The part of a run that is for the ingress, if there is a link to connect to. -/
def ingressTurn (clients : ClientFactory World) (identity : ClusterIdentity)
    (type : LoadBalancerType) (links : List PrivateLink) : Action (Workspace World) Unit :=
  match type, links with
  | .internal, link :: _ => do
      let workload ← Action.inspect (·.workload.current)
      let client ← outside (clients.client workload)
      ingressPass client identity link
  | _, _ => pure ()

/-- Whether a pass has failed for good. -/
def isFatal : Except Error Unit → Bool
  | .error error => !error.isRetryable
  | .ok _ => false

/-- The part of a run that follows the pass for the API server. -/
def afterApiServer (clients : ClientFactory World) (identity : ClusterIdentity)
    (type : LoadBalancerType) (links : List PrivateLink) (result : Except Error Unit) :
    Action (Workspace World) Unit :=
  if isFatal result then Action.ofExcept result
  else do
    ingressTurn clients identity type links
    Action.ofExcept result

theorem reconcilePrivate_eq (clients : ClientFactory World) :
    reconcilePrivate clients = (do
      let management ← Action.inspect (·.management.current)
      let workload ← Action.inspect (·.workload.current)
      let identity ← Action.ofExcept (ClusterIdentity.ofCluster management)
      let client ← outside (clients.client management)
      let result ← (apiServerPass client).attempt
      afterApiServer clients identity management.loadBalancerType
        (PrivateLink.allowing management.privateLinks workload.spec.subscriptionId) result) := by
  unfold reconcilePrivate
  refine bind_congr fun management => bind_congr fun workload => bind_congr fun identity =>
    bind_congr fun client => bind_congr fun result => ?_
  have turn : (ingressTurn clients identity management.loadBalancerType
      (PrivateLink.allowing management.privateLinks workload.spec.subscriptionId) >>=
        fun _ => Action.ofExcept result) =
      match management.loadBalancerType,
        PrivateLink.allowing management.privateLinks workload.spec.subscriptionId with
      | .internal, link :: _ => do
          let workload ← Action.inspect (·.workload.current)
          let client ← outside (clients.client workload)
          ingressPass client identity link
          Action.ofExcept result
      | _, _ => Action.ofExcept result := by
    unfold ingressTurn
    split <;> simp only [bind_assoc, pure_bind]
  unfold afterApiServer
  rw [turn]
  cases result with
  | ok done => rfl
  | error error =>
      cases retryable : error.isRetryable <;> simp only [isFatal, retryable] <;> rfl

/-! ## What the passes keep -/

section Keeps

variable {related : Workspace World → Workspace World → Prop}

/-- What every pass and every call outside keeps, a run keeps. -/
theorem reconcilePrivate_keeps (spares : clients.Spares view)
    (reflexive : ∀ workspace, related workspace workspace)
    (transitive : ∀ {first second third},
      related first second → related second third → related first third)
    (calls : ∀ cluster, (outside (clients.client cluster)).Keeps related)
    (apiServer : ∀ client : EndpointsClient World, client.Spares view →
      (apiServerPass client).Keeps related)
    (ingress : ∀ client : EndpointsClient World, client.Spares view → ∀ identity link,
      (ingressPass client identity link).Keeps related) :
    (reconcilePrivate clients).Keeps related := by
  have unchanged {α : Type} {action : Action (Workspace World) α}
      (same : ∀ workspace, (action workspace).2 = workspace) : action.Keeps related :=
    .of_unchanged reflexive same
  have spared {cluster : Cluster} {workspace : Workspace World} {client : EndpointsClient World}
      (found : (outside (clients.client cluster) workspace).1 = .ok client) :
      client.Spares view :=
    spares.client cluster workspace.world client found
  have turn (identity : ClusterIdentity) (type : LoadBalancerType) (links : List PrivateLink) :
      (ingressTurn clients identity type links).Keeps related := by
    unfold ingressTurn
    split
    · refine .bind transitive (unchanged fun _ => rfl) fun _ workload _ =>
        .bind transitive (calls workload) fun _ client found => ?_
      exact ingress client (spared found) _ _
    · exact unchanged fun _ => rfl
  rw [reconcilePrivate_eq]
  refine .bind transitive (unchanged fun _ => rfl) fun _ management _ =>
    .bind transitive (unchanged fun _ => rfl) fun _ workload _ =>
    .bind transitive (unchanged fun _ => rfl) fun _ identity _ =>
    .bind transitive (calls management) fun _ client found =>
    .bind transitive ?_ fun _ result _ => ?_
  · exact fun workspace => apiServer client (spared found) workspace
  · have rest : (ingressTurn clients identity management.loadBalancerType
        (PrivateLink.allowing management.privateLinks workload.spec.subscriptionId) >>=
          fun _ => Action.ofExcept result).Keeps related :=
      .bind transitive (turn _ _ _) fun _ _ _ => unchanged fun _ => rfl
    unfold afterApiServer
    split
    · exact unchanged fun _ => rfl
    · exact rest

end Keeps

theorem stays_reconcilePrivate (spares : clients.Spares view) :
    (reconcilePrivate clients).Keeps (Workspace.Stays view) := by
  apply reconcilePrivate_keeps spares (Workspace.Stays.refl view)
    (fun before after => before.trans after)
  · intro cluster workspace
    exact ⟨spares.call cluster workspace.world, rfl, rfl, rfl, rfl⟩
  · intro client spared workspace
    let pass := Pass.reconcile (some client)
    exact ⟨Pass.run_reconcile_spares spared _ _ _, rfl, rfl,
      Pass.core_host_of_run pass workspace.management.current workspace.workload.current _,
      Pass.core_owner_of_run pass workspace.management.current workspace.workload.current _⟩
  · intro client spared identity link workspace
    let pass := Pass.ingress (some client) identity link
    exact ⟨Pass.runAlone_ingress_spares _ _ spared _ _, rfl, rfl, rfl,
      Pass.core_of_runAlone pass workspace.workload.current _⟩

/-! ## Plans -/

section Follows

variable {Value : Type} {answers : Cluster → Except Error Findings}

/-- The action does to the clusters what the model does, with the same result. -/
def Follows (action : Action (Workspace World) α) (model : Action (Workspace Unit) α) : Prop :=
  ∀ management workload world,
    let here := action ⟨management, workload, world⟩
    let there := model ⟨management, workload, ()⟩
    here.1 = there.1 ∧ here.2.management = there.2.management ∧
      here.2.workload = there.2.workload

theorem Follows.bind {action : Action (Workspace World) α} {model : Action (Workspace Unit) α}
    {next : α → Action (Workspace World) β} {next' : α → Action (Workspace Unit) β}
    (first : Follows action model) (rest : ∀ value, Follows (next value) (next' value)) :
    Follows (action >>= next) (model >>= next') := by
  intro management workload world
  have same := first management workload world
  simp only [Action.bind_run]
  cases answer : action ⟨management, workload, world⟩ with
  | mk result after =>
    cases answer' : model ⟨management, workload, ()⟩ with
    | mk result' after' =>
      rw [answer, answer'] at same
      rcases same with ⟨results, managements, workloads⟩
      simp only at results managements workloads
      subst results
      cases result with
      | error error => exact ⟨rfl, managements, workloads⟩
      | ok value =>
          rcases after with ⟨management, workload, world⟩
          rcases after' with ⟨management', workload', ⟨⟩⟩
          subst managements workloads
          exact rest value management workload world

/-- Whoever asks for a client gets one with the same answers, or none for the same reason. -/
theorem Follows.bind_client (gives : clients.Gives answers) (cluster : Cluster)
    {next : EndpointsClient World → Action (Workspace World) α}
    {next' : EndpointsClient Unit → Action (Workspace Unit) α}
    (rest : ∀ client findings, client.Gives findings →
      Follows (next client) (next' findings.client)) :
    Follows (outside (clients.client cluster) >>= next)
      (outside ((ClientFactory.ofAnswers answers).client cluster) >>= next') := by
  intro management workload world
  have given := gives cluster world
  simp only [Action.bind_run, outside, Action.within_run, ClientFactory.ofAnswers,
    Action.ofExcept_run]
  cases answer : clients.client cluster world with
  | mk result after =>
    rw [answer] at given
    cases known : answers cluster.core with
    | error error =>
        simp only [known] at given
        subst given
        exact ⟨rfl, rfl, rfl⟩
    | ok findings =>
        simp only [known] at given
        rcases given with ⟨client, rfl, clientGives⟩
        exact rest client findings clientGives management workload after

theorem follows_apiServerPass {client : EndpointsClient World} {findings : Findings}
    (gives : client.Gives findings) :
    Follows (apiServerPass client).attempt (apiServerPass findings.client).attempt := by
  intro management workload world
  have same := Pass.run_reconcile_of_gives gives management.current workload.current world
  rcases same with ⟨results, managements, workloads⟩
  exact ⟨congrArg Except.ok results, congrArg (ClusterScope.mk management.loaded) managements,
    congrArg (ClusterScope.mk workload.loaded) workloads⟩

theorem follows_ingressPass {client : EndpointsClient World} {findings : Findings}
    (gives : client.Gives findings) (identity : ClusterIdentity) (link : PrivateLink) :
    Follows (ingressPass client identity link) (ingressPass findings.client identity link) := by
  intro management workload world
  have same := Pass.runAlone_ingress_of_gives identity link gives workload.current world
  exact ⟨same.1, rfl, congrArg (ClusterScope.mk workload.loaded) same.2⟩

theorem follows_ingressTurn (gives : clients.Gives answers) (identity : ClusterIdentity)
    (type : LoadBalancerType) (links : List PrivateLink) :
    Follows (ingressTurn clients identity type links)
      (ingressTurn (.ofAnswers answers) identity type links) := by
  unfold ingressTurn
  split
  · exact .bind (fun _ _ _ => ⟨rfl, rfl, rfl⟩) fun workload =>
      .bind_client gives workload fun _ _ clientGives => follows_ingressPass clientGives _ _
  · exact fun _ _ _ => ⟨rfl, rfl, rfl⟩

/-- With fixed answers the world has no say in what becomes of the clusters. -/
theorem follows_reconcilePrivate (gives : clients.Gives answers) :
    Follows (reconcilePrivate clients) (reconcilePrivate (.ofAnswers answers)) := by
  rw [reconcilePrivate_eq, reconcilePrivate_eq]
  refine .bind (fun _ _ _ => ⟨rfl, rfl, rfl⟩) fun management =>
    .bind (fun _ _ _ => ⟨rfl, rfl, rfl⟩) fun workload =>
    .bind (fun _ _ _ => ⟨rfl, rfl, rfl⟩) fun identity =>
    .bind_client gives management fun client findings clientGives =>
    .bind (follows_apiServerPass clientGives) fun result => ?_
  unfold afterApiServer
  split
  · exact fun _ _ _ => ⟨rfl, rfl, rfl⟩
  · exact .bind (follows_ingressTurn gives _ _ _) fun _ _ _ _ => ⟨rfl, rfl, rfl⟩

end Follows

/-- How the passes end and what they make of the two clusters. -/
structure Plan where
  result : Except Error Unit
  management : Cluster
  workload : Cluster

/-- What the passes come to, with fixed answers, for two clusters that were just loaded. -/
def plan (answers : Cluster → Except Error Findings) (management workload : Cluster) : Plan :=
  let (result, workspace) := reconcilePrivate (.ofAnswers answers)
    ⟨.ofCluster management, .ofCluster workload, ()⟩
  ⟨result, workspace.management.current, workspace.workload.current⟩

section Plans

variable {answers : Cluster → Except Error Findings} {management workload : Cluster}

/-- The turn of the ingress, with fixed answers. -/
def planIngress (answers : Cluster → Except Error Findings) (identity : ClusterIdentity)
    (type : LoadBalancerType) (links : List PrivateLink) (workload : Cluster) :
    Except Error Unit × Cluster :=
  match type, links with
  | .internal, link :: _ =>
      match answers workload.core with
      | .error error => (.error error, workload)
      | .ok findings =>
          let (result, workload, _) :=
            (Pass.ingress (some findings.client) identity link).runAlone workload ()
          (result, workload)
  | _, _ => (.ok (), workload)

theorem outside_ofAnswers_run (answers : Cluster → Except Error Findings) (cluster : Cluster)
    (workspace : Workspace Unit) :
    outside ((ClientFactory.ofAnswers answers).client cluster) workspace =
      ((answers cluster.core).map Findings.client, workspace) := rfl

theorem ingressTurn_ofAnswers (answers : Cluster → Except Error Findings)
    (identity : ClusterIdentity) (type : LoadBalancerType) (links : List PrivateLink)
    (management workload : ClusterScope) :
    ingressTurn (.ofAnswers answers) identity type links ⟨management, workload, ()⟩ =
      let (result, connected) := planIngress answers identity type links workload.current
      (result, ⟨management, { workload with current := connected }, ()⟩) := by
  unfold ingressTurn planIngress
  split
  · simp only [Action.bind_run, Action.inspect_run, outside_ofAnswers_run]
    cases answers workload.current.core <;> rfl
  · rfl

/-- What follows the pass for the API server, with fixed answers: the turn of the ingress, unless
that pass has failed for good. -/
def finish (answers : Cluster → Except Error Findings) (identity : ClusterIdentity)
    (type : LoadBalancerType) (links : List PrivateLink) :
    Except Error Unit × Cluster × Cluster × Unit → Plan
  | (result, management, workload, _) =>
      if isFatal result then ⟨result, management, workload⟩
      else
        let (ingress, connected) := planIngress answers identity type links workload
        ⟨ingress.bind fun _ => result, management, connected⟩

theorem finish_of_isFatal {identity : ClusterIdentity} {type : LoadBalancerType}
    {links : List PrivateLink} {result : Except Error Unit} (management workload : Cluster)
    (fatal : isFatal result = true) :
    finish answers identity type links (result, management, workload, ()) =
      ⟨result, management, workload⟩ :=
  if_pos fatal

theorem finish_of_not_isFatal {identity : ClusterIdentity} {type : LoadBalancerType}
    {links : List PrivateLink} {result : Except Error Unit} (management workload : Cluster)
    (fatal : isFatal result = false) :
    finish answers identity type links (result, management, workload, ()) =
      ⟨(planIngress answers identity type links workload).1.bind fun _ => result, management,
        (planIngress answers identity type links workload).2⟩ :=
  if_neg (Bool.eq_false_iff.mp fatal)

theorem plan_eq (answers : Cluster → Except Error Findings) (management workload : Cluster) :
    plan answers management workload =
      match ClusterIdentity.ofCluster management, answers management.core with
      | .error error, _ => ⟨.error error, management, workload⟩
      | .ok _, .error error => ⟨.error error, management, workload⟩
      | .ok identity, .ok findings =>
          finish answers identity management.loadBalancerType
            (PrivateLink.allowing management.privateLinks workload.spec.subscriptionId)
            (Pass.run (Pass.reconcile (some findings.client)) management workload ()) := by
  unfold plan
  rw [reconcilePrivate_eq]
  simp only [Action.bind_run, Action.inspect_run, Action.ofExcept_run, ClusterScope.ofCluster]
  cases ClusterIdentity.ofCluster management with
  | error error => rfl
  | ok identity =>
    simp only [outside_ofAnswers_run]
    cases answers management.core with
    | error error => rfl
    | ok findings =>
      simp only [Except.map, Action.attempt_run, apiServerPass, afterApiServer, finish]
      rcases Pass.run (Pass.reconcile (some findings.client)) management workload () with
        ⟨result, changed, recorded, ⟨⟩⟩
      cases isFatal result with
      | true => rfl
      | false =>
          have turn := ingressTurn_ofAnswers answers identity management.loadBalancerType
            (PrivateLink.allowing management.privateLinks workload.spec.subscriptionId)
            ⟨management, changed⟩ ⟨workload, recorded⟩
          simp only [Bool.false_eq_true, ↓reduceIte, Action.bind_run, turn]
          cases (planIngress answers identity management.loadBalancerType
            (PrivateLink.allowing management.privateLinks workload.spec.subscriptionId)
            recorded).1 <;> rfl

theorem core_planIngress (answers : Cluster → Except Error Findings) (identity : ClusterIdentity)
    (type : LoadBalancerType) (links : List PrivateLink) (workload : Cluster) :
    (planIngress answers identity type links workload).2.core = workload.core := by
  unfold planIngress
  split
  · split
    · rfl
    · exact Pass.core_of_runAlone _ _ _
  · rfl

/-- The turn of the ingress can be taken again. -/
theorem planIngress_again (identity : ClusterIdentity) (type : LoadBalancerType)
    (links : List PrivateLink) (workload : Cluster) :
    planIngress answers identity type links (planIngress answers identity type links workload).2 =
      planIngress answers identity type links workload := by
  cases type with
  | external => rfl
  | other name => rfl
  | internal =>
    cases links with
    | nil => rfl
    | cons link rest =>
        have sameCore := core_planIngress answers identity .internal (link :: rest) workload
        simp only [planIngress] at sameCore ⊢
        rw [sameCore]
        cases answers workload.core with
        | error error => rfl
        | ok findings => simp only [Pass.runAlone_ingress_again]

/-- An owner on which the pass for the API server has nothing to write is still one after the turn
of the ingress. -/
theorem run_reconcile_owner_after_planIngress {findings : Findings} (host : Cluster)
    (identity : ClusterIdentity) (type : LoadBalancerType) (links : List PrivateLink)
    (kept : (Pass.run (Pass.reconcile (some findings.client)) host workload ()).2.2.1 = workload) :
    let after := (planIngress answers identity type links workload).2
    (Pass.run (Pass.reconcile (some findings.client)) host after ()).2.2.1 = after := by
  unfold planIngress
  split
  · split
    · exact kept
    · exact Pass.run_reconcile_owner_after_ingress _ _ _ _ kept
  · exact kept

/-- A pass that finds the workload cluster as it was or as the plan has left it is finished in the
same way. -/
theorem finish_resume {findings : Findings} (identity : ClusterIdentity) (type : LoadBalancerType)
    (links : List PrivateLink) {management workload workload' : Cluster} :
    let recorded owner :=
      (Pass.run (Pass.reconcile (some findings.client)) management owner ()).2.2.1
    let first := Pass.run (Pass.reconcile (some findings.client)) management workload ()
    workload' = workload ∨ workload' = (finish answers identity type links first).workload →
      finish answers identity type links (first.1, first.2.1, recorded workload', ()) =
        finish answers identity type links first := by
  intro recorded first workloadAt
  have kept : recorded first.2.2.1 = first.2.2.1 :=
    Pass.run_reconcile_owner_again management workload
  have firstIs : first = (first.1, first.2.1, first.2.2.1, ()) := rfl
  rw [firstIs] at workloadAt ⊢
  rcases workloadAt with rfl | isLeft
  · rfl
  cases fatal : isFatal first.1 with
  | true =>
      rw [finish_of_isFatal _ _ fatal] at isLeft
      simp only at isLeft
      rw [isLeft, kept]
  | false =>
      rw [finish_of_not_isFatal _ _ fatal] at isLeft
      simp only at isLeft
      have stillKept : recorded workload' = workload' := by
        rw [isLeft]
        exact run_reconcile_owner_after_planIngress management identity type links kept
      rw [finish_of_not_isFatal _ _ fatal, finish_of_not_isFatal _ _ fatal, stillKept, isLeft,
        planIngress_again]

theorem core_plan (answers : Cluster → Except Error Findings) (management workload : Cluster) :
    (plan answers management workload).management.core = management.core ∧
      (plan answers management workload).workload.core = workload.core := by
  have spares : (ClientFactory.ofAnswers answers).Spares id :=
    ⟨fun _ _ => rfl, fun _ _ _ _ _ _ _ => rfl⟩
  have stays := stays_reconcilePrivate spares ⟨.ofCluster management, .ofCluster workload, ()⟩
  exact ⟨stays.managementCore, stays.workloadCore⟩

open Endpoints in
/-- A plan can be resumed: with either cluster as it was or as the plan has left it, the passes come
to the same. -/
theorem plan_resume {management' workload' : Cluster}
    (unique : UniqueNames management.hostedEndpoints)
    (trueNames : management.HasTrueNames workload)
    (managementAt : management' = management ∨
      management' = (plan answers management workload).management)
    (workloadAt : workload' = workload ∨
      workload' = (plan answers management workload).workload) :
    plan answers management' workload' = plan answers management workload := by
  have managementCore : management'.core = management.core := by
    rcases managementAt with rfl | rfl
    · rfl
    · exact (core_plan answers management workload).1
  have workloadCore : workload'.core = workload.core := by
    rcases workloadAt with rfl | rfl
    · rfl
    · exact (core_plan answers management workload).2
  have planIs := plan_eq answers management workload
  have againIs := plan_eq answers management' workload'
  have sameSubscription : workload'.spec.subscriptionId = workload.spec.subscriptionId :=
    Cluster.eq_of_core_eq (·.spec.subscriptionId) (fun _ => rfl) workloadCore
  rw [Cluster.identity_of_core_eq managementCore, managementCore,
    Cluster.loadBalancerType_of_core_eq managementCore,
    Cluster.privateLinks_of_core_eq managementCore, sameSubscription] at againIs
  cases identified : ClusterIdentity.ofCluster management with
  | error error =>
      simp only [identified] at planIs againIs
      rw [planIs, or_self] at managementAt workloadAt
      subst managementAt workloadAt
      rfl
  | ok identity =>
    cases known : answers management.core with
    | error error =>
        simp only [identified, known] at planIs againIs
        rw [planIs, or_self] at managementAt workloadAt
        subst managementAt workloadAt
        rfl
    | ok findings =>
        simp only [identified, known] at planIs againIs
        let pass := Pass.reconcile (some findings.client)
        have hostAt : management' = management ∨
            management' = (Pass.run pass management workload ()).2.1 := by
          rw [planIs, finish] at managementAt
          split at managementAt <;> exact managementAt
        rcases Pass.run_reconcile_resume unique trueNames workloadCore hostAt with
          ⟨results, managements, workloads⟩
        have secondIs : Pass.run pass management' workload' () =
            ((Pass.run pass management workload ()).1, (Pass.run pass management workload ()).2.1,
              (Pass.run pass management workload' ()).2.2.1, ()) :=
          Prod.ext results (Prod.ext managements (Prod.ext workloads rfl))
        rw [planIs] at workloadAt ⊢
        rw [againIs, secondIs]
        exact finish_resume _ _ _ workloadAt

end Plans

end Controller

end ClusterLinks
