import ClusterLinks.Proofs.Controller.FailingForGood
import ClusterLinks.Proofs.Controller.Guards

/-!
# The turn of the ingress

The ingress has its turn after the pass for the API server, unless that pass has failed for good.
Whether it is to have one is up to the two clusters as they were loaded, not to what the first pass
has made of them. No step other than these two gets a run any further.
-/

namespace ClusterLinks

variable {World α β : Type}

namespace Steps

variable {steps : List StepRecord} {management workload : Cluster}

/-- A client was asked for on behalf of the ingress. -/
def TurnsToIngress (steps : List StepRecord) : Prop :=
  ∃ record ∈ steps, record.step = .ingressClient

/-- The pass for the API server was made and has not failed for good. -/
def HasPassed (steps : List StepRecord) : Prop :=
  ∃ record ∈ steps, record.step = .apiServerPass ∧ ¬ record.IsFatal

/-- The cluster that a step has found. -/
def found? (step : Step) (steps : List StepRecord) : Option Cluster :=
  steps.findSome? fun record => if record.step = step then record.result.toOption.join else none

/-- The API server of the management cluster is internal, and one of its links allows the workload
cluster to connect to it. -/
def IsOpen (management workload : Cluster) : Prop :=
  management.loadBalancerType = .internal ∧
    ∃ link ∈ management.privateLinks, link.allows workload.spec.subscriptionId = true

/-- Both clusters were found, and how far the run has got after that. -/
structure At (management workload : Cluster) (turned passed : Prop) (steps : List StepRecord) :
    Prop where
  management : found? .loadManagement steps = some management
  workload : found? .loadWorkload steps = some workload
  turned : TurnsToIngress steps ↔ turned
  passed : HasPassed steps ↔ passed

theorem turnsToIngress_append (record : StepRecord) :
    TurnsToIngress (steps ++ [record]) ↔ TurnsToIngress steps ∨ record.step = .ingressClient := by
  simp [TurnsToIngress, or_and_right, exists_or]

theorem hasPassed_append (record : StepRecord) :
    HasPassed (steps ++ [record]) ↔
      HasPassed steps ∨ record.step = .apiServerPass ∧ ¬ record.IsFatal := by
  simp [HasPassed, or_and_right, exists_or]

theorem found?_append {step : Step} {cluster : Cluster} (found : found? step steps = some cluster)
    (record : StepRecord) : found? step (steps ++ [record]) = some cluster := by
  rw [found?] at found ⊢
  rw [List.findSome?_append, found, Option.some_or]

theorem found?_append_of_none {step : Step} (unfound : found? step steps = none)
    (more : List StepRecord) : found? step (steps ++ more) = found? step more := by
  rw [found?] at unfound ⊢
  rw [List.findSome?_append, unfound, Option.none_or, found?]

namespace At

variable {turned passed : Prop}

theorem append (reached : At management workload turned passed steps) (record : StepRecord) :
    At management workload (turned ∨ record.step = .ingressClient)
      (passed ∨ record.step = .apiServerPass ∧ ¬ record.IsFatal) (steps ++ [record]) where
  management := found?_append reached.management record
  workload := found?_append reached.workload record
  turned := by rw [turnsToIngress_append, reached.turned]
  passed := by rw [hasPassed_append, reached.passed]

/-- Other steps do not get the run any further. -/
theorem append_other (reached : At management workload turned passed steps) {record : StepRecord}
    (other : record.step ≠ .ingressClient) (other' : record.step ≠ .apiServerPass) :
    At management workload turned passed (steps ++ [record]) := by
  have appended := reached.append record
  simpa only [other, other', false_and, or_false] using appended

end At

/-- The ingress has had its turn if and only if it was to have one. -/
def IsFair (management workload : Cluster) (steps : List StepRecord) : Prop :=
  ∃ passed, At management workload (passed ∧ IsOpen management workload) passed steps

theorem IsFair.append_other (fair : IsFair management workload steps) {record : StepRecord}
    (other : record.step ≠ .ingressClient) (other' : record.step ≠ .apiServerPass) :
    IsFair management workload (steps ++ [record]) :=
  fair.imp fun _ reached => reached.append_other other other'

/-- A run that does not get to the pass for the API server does not get to the ingress. -/
theorem At.isFair (reached : At management workload False False steps) :
    IsFair management workload steps :=
  ⟨False, by simpa only [false_and] using reached⟩

end Steps

namespace Controller

open Steps

variable {management workload : Cluster} {store : ClusterStore World}
variable {settings : ControllerSettings}

/-- Where a step gets the run. -/
theorem traced_at (action : Action World α) {turned passed : Prop} (step : Step)
    (found? : α → Option Cluster) :
    (action.traced step found?).Meets
      (fun traced => At management workload turned passed traced.steps)
      fun result traced => At management workload (turned ∨ step = .ingressClient)
        (passed ∨ step = .apiServerPass ∧ ¬ StepRecord.IsFatal ⟨step, result.map found?⟩)
        traced.steps := by
  intro traced reached
  exact reached.append ⟨step, (action traced.world).1.map found?⟩

/-- A step that gets the run no further. -/
theorem traced_other {action : Action World α} {turned passed : Prop} {step : Step}
    (other : step ≠ .ingressClient) (other' : step ≠ .apiServerPass) (found? : α → Option Cluster) :
    (action.traced step found?).Meets
      (fun traced => At management workload turned passed traced.steps)
      fun _ traced => At management workload turned passed traced.steps :=
  fun _ reached => reached.append_other other other'

theorem traced_isFair {action : Action World α} {step : Step} (other : step ≠ .ingressClient)
    (other' : step ≠ .apiServerPass) (found? : α → Option Cluster) :
    (action.traced step found?).Meets (fun traced => IsFair management workload traced.steps)
      fun _ traced => IsFair management workload traced.steps :=
  fun _ fair => fair.append_other other other'

theorem isFatal_record (step : Step) (found? : Unit → Option Cluster) (result : Except Error Unit) :
    StepRecord.IsFatal ⟨step, result.map found?⟩ ↔ isFatal result = true := by
  cases result with
  | ok done => simp [StepRecord.IsFatal, isFatal, Except.map]
  | error error => simp [StepRecord.IsFatal, isFatal, Except.map]

/-- After the pass for the API server the ingress has its turn if it is to have one. -/
theorem traceIngress_isFair (clients : ClientFactory World) (identity : ClusterIdentity) :
    (traceIngress clients identity management.loadBalancerType
        (PrivateLink.allowing management.privateLinks workload.spec.subscriptionId)).Meets
      (fun traced => At management workload False True traced.steps)
      fun _ traced => IsFair management workload traced.steps := by
  unfold traceIngress
  split
  · next link rest internal links =>
      have isOpen : IsOpen management workload := by
        have member : link ∈ PrivateLink.allowing management.privateLinks _ :=
          links ▸ List.mem_cons_self
        exact ⟨internal, link, List.mem_filter.mp member⟩
      have turns (cluster : Cluster) :
          ((outside (clients.client cluster)).executed .ingressClient).Meets
            (fun traced => At management workload False True traced.steps)
            fun _ traced => IsFair management workload traced.steps := by
        intro traced reached
        have turned := traced_at (outside (clients.client cluster)) .ingressClient (fun _ => none)
          traced reached
        simp only [or_true, true_or] at turned
        exact ⟨True, by simpa only [isOpen, and_true] using turned⟩
      refine Action.Meets.bind_inspect fun cluster => (turns cluster).bind ?_ fun client =>
        (traced_isFair (by decide) (by decide) _).bind ?_ fun _ => ?_
      · exact fun _ _ fair => fair
      · exact fun _ _ fair => fair
      · exact traced_isFair (by decide) (by decide) _
  · next other =>
      have closed : ¬ IsOpen management workload := by
        rintro ⟨internal, link, member, allows⟩
        have allowed : link ∈ PrivateLink.allowing management.privateLinks _ :=
          List.mem_filter.mpr ⟨member, allows⟩
        obtain ⟨first, rest, links⟩ := List.exists_cons_of_ne_nil (List.ne_nil_of_mem allowed)
        exact other first rest internal links
      exact .pure fun traced reached => ⟨True, by simpa [closed] using reached⟩

/-- The pass for the API server has been made and has not failed for good, or there is no going on
after it. -/
theorem traceApiServer_at (client : EndpointsClient World) :
    (traceApiServer client).Meets (fun traced => At management workload False False traced.steps)
      fun result traced => At management workload False (isFatal result = false) traced.steps := by
  intro traced reached
  let make : Action (Workspace World) Unit :=
    makeDirectories (·.management.current) (·.workload.current)
  have made : At management workload False False (make.executed .directories traced).2.steps :=
    traced_other (by decide) (by decide) _ traced reached
  cases Action.bind_cases (make.executed .directories)
      (fun _ => (apiServerPass client).executed .apiServerPass) traced with
  | inl failed =>
      obtain ⟨error, fails, ends⟩ := failed
      have forGood : error.isRetryable = false :=
        failsForGood_makeDirectories (·.management.current) (·.workload.current) traced.world error
          fails
      rw [traceApiServer, ends]
      simpa [isFatal, forGood] using made
  | inr succeeded =>
      obtain ⟨done, -, goesOn⟩ := succeeded
      rw [traceApiServer, goesOn]
      have passed := traced_at (apiServerPass client) .apiServerPass (fun _ => none) _ made
      simpa only [isFatal_record, reduceCtorEq, or_false, false_or, true_and,
        Bool.not_eq_true] using passed

theorem tracePasses_isFair (clients : ClientFactory World) :
    (tracePasses clients management workload).Meets
      (fun traced => At management workload False False traced.steps)
      fun _ traced => IsFair management workload traced.steps := by
  have after (identity : ClusterIdentity) (result : Except Error Unit) :
      (traceAfterApiServer clients identity management.loadBalancerType
          (PrivateLink.allowing management.privateLinks workload.spec.subscriptionId) result).Meets
        (fun traced => At management workload False (isFatal result = false) traced.steps)
        fun _ traced => IsFair management workload traced.steps := by
    unfold traceAfterApiServer
    cases fatal : isFatal result with
    | true =>
        rw [if_pos rfl]
        exact .ofExcept fun traced reached => At.isFair (by simpa using reached)
    | false =>
        simp only [Bool.false_eq_true, ↓reduceIte]
        refine (traceIngress_isFair clients identity).bind ?_ fun _ => .ofExcept ?_
        · exact fun _ _ fair => fair
        · exact fun _ fair => fair
  refine (traced_other (by decide) (by decide) _).bind ?_ fun identity =>
    (traced_other (by decide) (by decide) _).bind ?_ fun client =>
    fun traced reached => after identity _ _ (traceApiServer_at client traced reached)
  · exact fun _ _ reached => reached.isFair
  · exact fun _ _ reached => reached.isFair

theorem traceLoaded_isFair (settings : ControllerSettings) (store : ClusterStore World)
    (clients : ClientFactory World) :
    (traceLoaded settings store clients (.ofCluster management) (.ofCluster workload)).Meets
      (fun traced => At management workload False False traced.steps)
      fun _ traced => IsFair management workload traced.steps := by
  intro traced reached
  have fair := tracePasses_isFair clients
    ⟨⟨.ofCluster management, .ofCluster workload, traced.world⟩, traced.steps⟩ reached
  rw [traceLoaded_run]
  simp only [List.map_cons, List.map_nil]
  rw [List.append_cons]
  exact (fair.append_other (by simp) (by simp)).append_other (by simp) (by simp)

/-- What a run has loaded is as it was loaded. -/
theorem fresh_of_load {key : ObjectKey} {world : World} {scope : ClusterScope}
    (found : (ClusterScope.load store key world).1 = .ok (some scope)) :
    scope = .ofCluster scope.loaded := by
  rw [ClusterScope.load_run] at found
  cases answer : (store.get key world).1 with
  | error error =>
      rw [answer] at found
      cases found
  | ok cluster? =>
      rw [answer] at found
      cases cluster? with
      | none => cases found
      | some cluster =>
          cases found
          rfl

theorem fresh_of_loadManagement {world : World} {scope : ClusterScope}
    (found : (loadManagement settings store world).1 = .ok scope) :
    scope = .ofCluster scope.loaded := by
  obtain ⟨scope?, loaded⟩ := Action.exists_of_bind_ok found
  rw [loadManagement, Action.bind_run] at found
  cases answer : ClusterScope.load store settings.managementCluster world with
  | mk result after =>
    rw [answer] at loaded found
    simp only at loaded found
    subst loaded
    cases scope? with
    | none => cases found
    | some scope' =>
        cases found
        exact fresh_of_load (congrArg Prod.fst answer)

/-- The ingress has its turn if and only if the pass for the API server was made and has not failed
for good and the loaded clusters call for it. -/
def HasFairIngress (steps : List StepRecord) : Prop :=
  TurnsToIngress steps ↔ HasPassed steps ∧
    ∃ management workload, found? .loadManagement steps = some management ∧
      found? .loadWorkload steps = some workload ∧ IsOpen management workload

theorem hasFairIngress_of_isFair {steps : List StepRecord}
    (fair : IsFair management workload steps) : HasFairIngress steps := by
  obtain ⟨passed, reached⟩ := fair
  rw [HasFairIngress, reached.turned, reached.passed, reached.management, reached.workload]
  simp

/-- Before the passes there is no turn. -/
theorem hasFairIngress_of_loads {steps : List StepRecord}
    (loads : ∀ record ∈ steps, record.step = .finalizer ∨ record.step = .loadWorkload ∨
      record.step = .loadManagement) : HasFairIngress steps := by
  have elsewhere (step : Step) (other : step ≠ .finalizer ∧ step ≠ .loadWorkload ∧
      step ≠ .loadManagement) : ¬ ∃ record ∈ steps, record.step = step := by
    rintro ⟨record, member, rfl⟩
    simpa [other] using loads record member
  have unturned : ¬ TurnsToIngress steps := elsewhere _ (by decide)
  have unpassed : ¬ HasPassed steps := by
    rintro ⟨record, member, isPass, -⟩
    exact elsewhere .apiServerPass (by decide) ⟨record, member, isPass⟩
  simp [HasFairIngress, unturned, unpassed]

theorem at_of_loads {steps : List StepRecord} (first : ∀ record ∈ steps, record.step = .finalizer) :
    At management workload False False (steps ++
      [⟨.loadWorkload, .ok (some workload)⟩, ⟨.loadManagement, .ok (some management)⟩]) := by
  have unfound (step : Step) (other : step ≠ .finalizer) : found? step steps = none := by
    rw [found?, List.findSome?_eq_none_iff]
    intro record member
    rw [first record member, if_neg other.symm]
  have unturned : ¬ TurnsToIngress steps := by
    rintro ⟨record, member, isTurn⟩
    cases (first record member).symm.trans isTurn
  have unpassed : ¬ HasPassed steps := by
    rintro ⟨record, member, isPass, -⟩
    cases (first record member).symm.trans isPass
  constructor
  · rw [found?_append_of_none (unfound _ (by decide))]
    rfl
  · rw [found?_append_of_none (unfound _ (by decide))]
    rfl
  · rw [List.append_cons, turnsToIngress_append, turnsToIngress_append]
    simp [unturned]
  · rw [List.append_cons, hasPassed_append, hasPassed_append]
    simp [unpassed]

theorem traceAfterAdmission_hasFairIngress (settings : ControllerSettings)
    (store : ClusterStore World) (clients : ClientFactory World) (key : ObjectKey) :
    (traceAfterAdmission settings store clients key).Meets
      (fun traced => ∀ record ∈ traced.steps, record.step = .finalizer)
      fun _ traced => HasFairIngress traced.steps := by
  intro traced first
  have early (more : List StepRecord) (loads : ∀ record ∈ more, record.step = .loadWorkload ∨
      record.step = .loadManagement) : HasFairIngress (traced.steps ++ more) :=
    hasFairIngress_of_loads fun record member =>
      (List.mem_append.mp member).imp (first record) (loads record)
  rw [traceAfterAdmission, Action.bind_run, Action.traced_run]
  cases loaded : ClusterScope.load store key traced.world with
  | mk result world =>
    cases result with
    | error error => exact early _ (by simp)
    | ok workload? =>
      cases workload? with
      | none => exact early _ (by simp)
      | some workload =>
        simp only [Action.bind_run, Action.traced_run]
        cases managed : loadManagement settings store world with
        | mk result world' =>
          rw [List.append_assoc]
          cases result with
          | error error => exact early _ (by simp)
          | ok management =>
              apply hasFairIngress_of_isFair
              rw [fresh_of_load (congrArg Prod.fst loaded),
                fresh_of_loadManagement (congrArg Prod.fst managed)]
              exact traceLoaded_isFair settings store clients _ (at_of_loads first)

theorem traceInternal_hasFairIngress (settings : ControllerSettings) (store : ClusterStore World)
    (clients : ClientFactory World) (event : Cluster) (world : World) :
    HasFairIngress (traceInternal settings store clients event ⟨world, []⟩).2.steps := by
  have goesOn := traceAfterAdmission_hasFairIngress settings store clients event.key
  unfold traceInternal traceFinalizer
  split
  · exact goesOn ⟨world, []⟩ (by simp)
  · rw [Action.bind_run, Action.executed, Action.traced_run]
    cases store.addFinalizer event.key Conventions.finalizer world with
    | mk result after =>
      cases result with
      | ok done => exact goesOn _ (by simp)
      | error error => exact hasFairIngress_of_loads (by simp)

end Controller

end ClusterLinks
