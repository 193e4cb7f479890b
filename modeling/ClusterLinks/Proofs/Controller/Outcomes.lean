import ClusterLinks.Proofs.Controller.IngressTurn

/-!
# How a run is counted

Many steps of a run may fail, and one result is returned. If the store and the clients fail for good
whenever they fail, then only the two passes can be waited for, and the result can be read off the
record of the steps: a run fails if a step has failed for good, it is to be retried if a pass has to
wait and nothing worse has happened, and it is a success if every step was one.
-/

namespace ClusterLinks

variable {World α β : Type}

/-! ## What the steps come to -/

namespace Steps

variable {steps : List StepRecord} {record : StepRecord}

def AllDone (steps : List StepRecord) : Prop :=
  ∀ record ∈ steps, record.Succeeds

/-- Some step has failed for good. -/
def HasFailed (steps : List StepRecord) : Prop :=
  ∃ record ∈ steps, record.IsFatal

/-- A pass has to wait, and nothing worse has happened. -/
def HasToWait (steps : List StepRecord) : Prop :=
  (∀ record ∈ steps, ¬ record.IsFatal) ∧
    ∃ record ∈ steps, record.step.isPass = true ∧ record.Waits

theorem AllDone.not_hasFailed (done : AllDone steps) : ¬ HasFailed steps :=
  fun ⟨record, member, fatal⟩ => (done record member).not_isFatal fatal

theorem AllDone.not_hasToWait (done : AllDone steps) : ¬ HasToWait steps := by
  rintro ⟨-, record, member, -, error, fails, -⟩
  obtain ⟨found?, succeeds⟩ := done record member
  cases succeeds.symm.trans fails

theorem HasToWait.not_hasFailed (waits : HasToWait steps) : ¬ HasFailed steps :=
  fun ⟨record, member, fatal⟩ => waits.1 record member fatal

/-- What has failed stays so. -/
theorem HasFailed.append (failed : HasFailed steps) (more : List StepRecord) :
    HasFailed (steps ++ more) := by
  obtain ⟨record, member, fatal⟩ := failed
  exact ⟨record, List.mem_append_left more member, fatal⟩

theorem hasFailed_of_isFatal (steps : List StepRecord) (fatal : record.IsFatal) :
    HasFailed (steps ++ [record]) :=
  ⟨record, List.mem_append_right steps (List.mem_singleton_self record), fatal⟩

/-- A state in which nothing has failed for good and which steps that succeed do not end. -/
structure IsCalm (state : List StepRecord → Prop) : Prop where
  calm : ∀ {steps}, state steps → ∀ record ∈ steps, ¬ record.IsFatal
  append : ∀ {steps} {record : StepRecord}, state steps → record.Succeeds →
    state (steps ++ [record])

theorem isCalm_allDone : IsCalm AllDone where
  calm done record member := (done record member).not_isFatal
  append done succeeds := List.forall_mem_append.mpr ⟨done, by simpa using succeeds⟩

theorem isCalm_hasToWait : IsCalm HasToWait where
  calm waits := waits.1
  append waits succeeds := by
    obtain ⟨calm, record, member, waits⟩ := waits
    exact ⟨List.forall_mem_append.mpr ⟨calm, by simpa using succeeds.not_isFatal⟩, record,
      List.mem_append_left _ member, waits⟩

/-- A pass that has to wait is all that has happened. -/
theorem IsCalm.wait {state : List StepRecord → Prop} (calm : IsCalm state) (before : state steps)
    (isPass : record.step.isPass = true) (waits : record.Waits) : HasToWait (steps ++ [record]) :=
  ⟨List.forall_mem_append.mpr ⟨calm.calm before, by simpa using waits.not_isFatal⟩, record,
    List.mem_append_right steps (List.mem_singleton_self record), isPass, waits⟩

/-- The steps explain the result: a value leaves the state as it was, and a failure has a step that
has failed in that way. -/
def Explain (state : List StepRecord → Prop) : Except Error α → List StepRecord → Prop
  | .ok _, steps => state steps
  | .error error, steps => if error.isRetryable then HasToWait steps else HasFailed steps

theorem explain_of_retryable {error : Error} (retryable : error.isRetryable = true)
    (state : List StepRecord → Prop) :
    Explain state (.error error : Except Error α) = HasToWait :=
  funext fun _ => if_pos retryable

theorem explain_of_fatal {error : Error} (fatal : error.isRetryable = false)
    (state : List StepRecord → Prop) :
    Explain state (.error error : Except Error α) = HasFailed :=
  funext fun _ => if_neg (Bool.eq_false_iff.mp fatal)

/-- A step that succeeds changes nothing about what is explained. -/
theorem Explain.append {result : Except Error α} {state : List StepRecord → Prop}
    (explained : Explain state result steps) (calm : IsCalm state) (succeeds : record.Succeeds) :
    Explain state result (steps ++ [record]) := by
  cases result with
  | ok value => exact calm.append explained succeeds
  | error error =>
    cases retryable : error.isRetryable with
    | true =>
        rw [explain_of_retryable retryable] at explained ⊢
        exact isCalm_hasToWait.append explained succeeds
    | false =>
        rw [explain_of_fatal retryable] at explained ⊢
        exact explained.append [record]

end Steps

open Steps

variable {state : List StepRecord → Prop} {clients : ClientFactory World}
variable {store : ClusterStore World} {settings : ControllerSettings}

namespace Action

/-- The steps explain what the action comes to. -/
def IsExplained (action : Action (Traced World) α) (state state' : List StepRecord → Prop) : Prop :=
  action.Meets (fun traced => state traced.steps) fun result traced =>
    Explain state' result traced.steps

/-- A step that fails for good if it fails is explained by its record. -/
theorem FailsForGood.traced {action : Action World α} (fatal : action.FailsForGood)
    (calm : IsCalm state) (step : Step) (found? : α → Option Cluster) :
    (action.traced step found?).IsExplained state state := by
  intro traced before
  change Explain state (action traced.world).1
    (traced.steps ++ [⟨step, (action traced.world).1.map found?⟩])
  cases answer : (action traced.world).1 with
  | ok value => exact calm.append before ⟨found? value, rfl⟩
  | error error =>
      have forGood := fatal traced.world error answer
      rw [explain_of_fatal forGood]
      exact hasFailed_of_isFatal _ ⟨error, rfl, forGood⟩

/-- So is a pass, whether it can be waited for or not. -/
theorem executed_isExplained (action : Action World α) (calm : IsCalm state) {step : Step}
    (isPass : step.isPass = true) : (action.executed step).IsExplained state state := by
  intro traced before
  change Explain state (action traced.world).1
    (traced.steps ++ [⟨step, (action traced.world).1.map _⟩])
  cases (action traced.world).1 with
  | ok value => exact calm.append before ⟨none, rfl⟩
  | error error =>
    cases retryable : error.isRetryable with
    | true =>
        rw [explain_of_retryable retryable]
        exact calm.wait before isPass ⟨error, rfl, retryable⟩
    | false =>
        rw [explain_of_fatal retryable]
        exact hasFailed_of_isFatal _ ⟨error, rfl, retryable⟩

theorem IsExplained.bind {action : Action (Traced World) α} {next : α → Action (Traced World) β}
    {between after : List StepRecord → Prop} (first : action.IsExplained state between)
    (rest : ∀ value, (next value).IsExplained between after) :
    (action >>= next).IsExplained state after :=
  Meets.bind first (fun _ _ explained => explained) rest

/-- What an attempt comes to is explained to what follows. -/
theorem IsExplained.bind_attempt {action : Action (Traced World) α}
    {next : Except Error α → Action (Traced World) β} {between after : List StepRecord → Prop}
    (first : action.IsExplained state between)
    (rest : ∀ result, (next result).IsExplained (Explain between result) after) :
    (action.attempt >>= next).IsExplained state after :=
  fun traced before => rest _ _ (first traced before)

theorem IsExplained.ofExcept {result : Except Error α} :
    (Action.ofExcept result : Action (Traced World) α).IsExplained (Explain state result) state :=
  fun _ explained => explained

end Action

namespace Controller

open ClusterLinks.Action (FailsForGood)

/-! ## The steps explain the run -/

theorem traceIngress_isExplained (fatal : clients.FailsForGood) (calm : IsCalm state)
    (identity : ClusterIdentity) (type : LoadBalancerType) (links : List PrivateLink) :
    (traceIngress clients identity type links).IsExplained state state := by
  unfold traceIngress
  split
  · have finds (workload : Cluster) : (outside (clients.client workload)).FailsForGood :=
      (fatal workload).within
    refine Action.Meets.bind_inspect fun workload =>
      ((finds workload).traced calm _ _).bind fun client =>
        ((failsForGood_makeDirectories _ _).traced calm _ _).bind fun _ => ?_
    exact Action.executed_isExplained _ calm rfl
  · exact .pure fun _ before => before

theorem traceAfterApiServer_isExplained (fatal : clients.FailsForGood) (identity : ClusterIdentity)
    (type : LoadBalancerType) (links : List PrivateLink) (result : Except Error Unit) :
    (traceAfterApiServer clients identity type links result).IsExplained
      (Explain AllDone result) AllDone := by
  unfold traceAfterApiServer
  cases result with
  | ok done =>
      exact (traceIngress_isExplained fatal isCalm_allDone _ _ _).bind fun _ => .ofExcept
  | error error =>
    cases retryable : error.isRetryable with
    | false =>
        rw [if_pos (by simp [isFatal, retryable])]
        exact .ofExcept
    | true =>
        rw [if_neg (by simp [isFatal, retryable]), explain_of_retryable retryable]
        refine (traceIngress_isExplained fatal isCalm_hasToWait _ _ _).bind fun _ => ?_
        rw [← explain_of_retryable retryable AllDone]
        exact .ofExcept

theorem tracePrivate_isExplained (fatal : clients.FailsForGood) :
    (tracePrivate clients).IsExplained AllDone AllDone := by
  have finds (cluster : Cluster) : (outside (clients.client cluster)).FailsForGood :=
    (fatal cluster).within
  have identifies (cluster : Cluster) :
      (Action.ofExcept (ClusterIdentity.ofCluster cluster) :
        Action (Workspace World) ClusterIdentity).FailsForGood :=
    .ofExcept fun _ => isRetryable_of_identity
  have passes (client : EndpointsClient World) :
      (traceApiServer client).IsExplained AllDone AllDone :=
    ((failsForGood_makeDirectories _ _).traced isCalm_allDone _ _).bind fun _ =>
      Action.executed_isExplained _ isCalm_allDone rfl
  have all (management workload : Cluster) :
      (tracePasses clients management workload).IsExplained AllDone AllDone :=
    ((identifies management).traced isCalm_allDone _ _).bind fun identity =>
      ((finds management).traced isCalm_allDone _ _).bind fun client =>
        (passes client).bind_attempt fun result =>
          traceAfterApiServer_isExplained fatal identity _ _ result
  exact fun traced => all _ _ traced

theorem passOutcome_cons_ok (pass : Except Error Unit) (done : Unit)
    (flushes : List (Except Error Unit)) :
    passOutcome pass (.ok done :: flushes) = passOutcome pass flushes := by
  cases pass with
  | ok done => rfl
  | error error => rfl

/-- After a flush that fails for good there is no waiting. -/
theorem passOutcome_cons_error (pass : Except Error Unit) {error : Error}
    (fatal : error.isRetryable = false) (flushes : List (Except Error Unit)) :
    ∃ error', passOutcome pass (.error error :: flushes) = .error error' ∧
      error'.isRetryable = false := by
  cases pass with
  | ok done => exact ⟨error, rfl, fatal⟩
  | error error' =>
    cases retryable : error'.isRetryable with
    | true => exact ⟨error, by rw [passOutcome, if_pos retryable]; rfl, fatal⟩
    | false =>
        exact ⟨error', by rw [passOutcome, if_neg (Bool.eq_false_iff.mp retryable)], retryable⟩

/-- Keeping the clusters after the passes: the first failure for good is what it all comes to. -/
theorem explain_passOutcome {pass : Except Error Unit} {flushes : List (Step × Except Error Unit)}
    (fatal : ∀ flush ∈ flushes, ∀ error, flush.2 = .error error → error.isRetryable = false)
    {steps : List StepRecord} (explained : Explain AllDone pass steps) :
    Explain AllDone (passOutcome pass (flushes.map (·.2)))
      (steps ++ flushes.map fun flush => ⟨flush.1, flush.2.map fun _ => none⟩) := by
  induction flushes generalizing steps with
  | nil =>
      rw [List.map_nil, List.map_nil, List.append_nil, passOutcome_of_flushed pass (by simp)]
      exact explained
  | cons flush rest ih =>
      obtain ⟨step, result⟩ := flush
      have fatalRest := fun flush member => fatal flush (List.mem_cons_of_mem _ member)
      rw [List.map_cons, List.map_cons, List.append_cons]
      cases result with
      | ok done =>
          rw [passOutcome_cons_ok]
          exact ih fatalRest (explained.append isCalm_allDone ⟨_, rfl⟩)
      | error error =>
          have forGood := fatal _ List.mem_cons_self error rfl
          obtain ⟨error', fails, forGood'⟩ := passOutcome_cons_error pass forGood (rest.map (·.2))
          rw [fails, explain_of_fatal forGood']
          exact (hasFailed_of_isFatal steps ⟨error, rfl, forGood⟩).append _

/-- What a run comes to, with the steps that explain it. -/
def Settled (settings : ControllerSettings) :
    Except Error (NextLook × Outcome) → List StepRecord → Prop
  | .error error, steps => error.isRetryable = false ∧ HasFailed steps
  | .ok next, steps =>
      next = (.afterSeconds settings.syncPeriod, .success) ∧ AllDone steps ∨
        next = (.afterSeconds settings.retryInterval, .retry) ∧ HasToWait steps ∨
        (⟨.loadWorkload, .ok none⟩ : StepRecord) ∈ steps

theorem settled_verdict {outcome : Except Error Unit} {steps : List StepRecord}
    (explained : Explain AllDone outcome steps) :
    Settled settings (verdict settings outcome) steps := by
  cases outcome with
  | ok done => exact .inl ⟨rfl, explained⟩
  | error error =>
    cases retryable : error.isRetryable with
    | true =>
        rw [explain_of_retryable retryable] at explained
        rw [verdict, if_pos retryable]
        exact .inr (.inl ⟨rfl, explained⟩)
    | false =>
        rw [explain_of_fatal retryable] at explained
        rw [verdict, if_neg (Bool.eq_false_iff.mp retryable)]
        exact ⟨retryable, explained⟩

theorem traceLoaded_settles (fatal : clients.FailsForGood) (fatal' : store.FailsForGood)
    (management workload : ClusterScope) :
    (traceLoaded settings store clients management workload).Meets
      (fun traced => AllDone traced.steps)
      fun result traced => Settled settings result traced.steps := by
  intro traced done
  rw [traceLoaded_run]
  apply settled_verdict
  apply explain_passOutcome
  · intro flush member error fails
    rcases List.mem_pair.mp member with rfl | rfl
    · exact failsForGood_close fatal' _ _ _ fails
    · exact failsForGood_close fatal' _ _ _ fails
  · exact tracePrivate_isExplained fatal ⟨⟨management, workload, traced.world⟩, traced.steps⟩ done

/-- A first step that fails for good settles the run; otherwise it goes on with that step on
record. -/
theorem settles_bind {action : Action World α} (fatal : action.FailsForGood) {step : Step}
    {found? : α → Option Cluster} {next : α → Action (Traced World) (NextLook × Outcome)}
    (rest : ∀ value, (next value).Meets
      (fun traced => AllDone traced.steps ∧ ⟨step, .ok (found? value)⟩ ∈ traced.steps)
      fun result traced => Settled settings result traced.steps) :
    (action.traced step found? >>= next).Meets (fun traced => AllDone traced.steps)
      fun result traced => Settled settings result traced.steps := by
  intro traced done
  have explained := fatal.traced isCalm_allDone step found? traced done
  rw [Action.bind_run]
  change Explain AllDone (action traced.world).1
    (traced.steps ++ [⟨step, (action traced.world).1.map found?⟩]) at explained
  simp only [Action.traced]
  cases answer : (action traced.world).1 with
  | ok value =>
      rw [answer] at explained
      exact rest value _ ⟨explained, List.mem_append_right _ (List.mem_singleton_self _)⟩
  | error error =>
      have forGood := fatal traced.world error answer
      rw [answer, explain_of_fatal forGood] at explained
      exact ⟨forGood, explained⟩

theorem traceAfterAdmission_settles (settings : ControllerSettings) (fatal : clients.FailsForGood)
    (fatal' : store.FailsForGood) (key : ObjectKey) :
    (traceAfterAdmission settings store clients key).Meets (fun traced => AllDone traced.steps)
      fun result traced => Settled settings result traced.steps := by
  refine settles_bind (failsForGood_load fatal' _) fun workload? => ?_
  cases workload? with
  | none => exact .pure fun traced missing => .inr (.inr missing.2)
  | some workload =>
      intro traced found
      refine settles_bind (failsForGood_loadManagement fatal' settings) (fun management => ?_)
        traced found.1
      exact fun traced loaded =>
        traceLoaded_settles fatal fatal' management workload traced loaded.1

/-- The steps of a run explain what it comes to. -/
theorem traceInternal_settles (settings : ControllerSettings) (fatal : clients.FailsForGood)
    (fatal' : store.FailsForGood) (event : Cluster) :
    (traceInternal settings store clients event).Meets (fun traced => AllDone traced.steps)
      fun result traced => Settled settings result traced.steps := by
  have goesOn := traceAfterAdmission_settles settings fatal fatal' event.key
  unfold traceInternal traceFinalizer
  split
  · exact goesOn
  · exact settles_bind (fatal'.addFinalizer _ _) fun _ traced done => goesOn traced done.1

/-! ## The result of a run -/

/-- The three ways in which a run may end exclude each other, and so do the states of its steps. -/
theorem Settled.reads {result : Except Error (NextLook × Outcome)} {steps : List StepRecord}
    (settled : Settled settings result steps)
    (present : (⟨.loadWorkload, .ok none⟩ : StepRecord) ∉ steps) :
    ((∃ error, result = .error error) ↔ HasFailed steps) ∧
      (∀ error, result = .error error → error.isRetryable = false) ∧
      (result = .ok (.afterSeconds settings.retryInterval, .retry) ↔ HasToWait steps) ∧
      (result = .ok (.afterSeconds settings.syncPeriod, .success) ↔ AllDone steps) := by
  cases result with
  | error error =>
      obtain ⟨forGood, failed⟩ := settled
      have waitsNot : ¬ HasToWait steps := fun waits => waits.not_hasFailed failed
      have doneNot : ¬ AllDone steps := fun done => done.not_hasFailed failed
      simp [failed, waitsNot, doneNot, forGood]
  | ok next =>
      obtain ⟨rfl, done⟩ | ⟨rfl, waits⟩ | missing := settled
      · have failedNot := done.not_hasFailed
        have waitsNot := done.not_hasToWait
        simp [done, failedNot, waitsNot]
      · have failedNot := waits.not_hasFailed
        have doneNot : ¬ AllDone steps := fun done => done.not_hasToWait waits
        simp [waits, failedNot, doneNot]
      · exact absurd missing present

/-- The run that is told step by step is the run, and its steps say what it comes to: it fails, and
then for good, if and only if a step has failed for good; it is to be retried if and only if no step
has failed for good and a pass has to wait; it is a success if and only if every step was one. The
ingress has its turn if and only if the pass for the API server was made and has not failed for
good, the API server of the management cluster is internal, and one of its links allows the other
cluster to connect. -/
theorem outcome_of_steps (settings : ControllerSettings) {store : ClusterStore World}
    (storeFails : store.FailsForGood) {clients : ClientFactory World}
    (clientsFail : clients.FailsForGood) {event : Cluster}
    (apart : event.key ≠ settings.managementCluster) (stays : event.isDeleting = false)
    (internal : event.loadBalancerType = .internal) (world : World) :
    let run := reconcile settings store clients event world
    let traced := traceInternal settings store clients event ⟨world, []⟩
    let steps := traced.2.steps
    (traced.1 = run.1 ∧ traced.2.world = run.2) ∧
      ((∃ record ∈ steps, record.step = .ingressClient) ↔
        (∃ record ∈ steps, record.step = .apiServerPass ∧ ¬ record.IsFatal) ∧
          ∃ management workload, found? .loadManagement steps = some management ∧
            found? .loadWorkload steps = some workload ∧
            management.loadBalancerType = .internal ∧
            ∃ link ∈ management.privateLinks,
              link.allows workload.spec.subscriptionId = true) ∧
      (∀ {Remote : Type} {connection : ApiConnection Remote}, connection.FailsForGood →
        (Operator.store connection).FailsForGood ∧ ∀ azure surroundings,
          (Sessions.clients azure connection surroundings).FailsForGood) ∧
      ((⟨.loadWorkload, .ok none⟩ : StepRecord) ∉ steps →
        ((∃ error, run.1 = .error error) ↔ ∃ record ∈ steps, record.IsFatal) ∧
          (∀ error, run.1 = .error error → error.isRetryable = false) ∧
          (run.1 = .ok (.afterSeconds settings.retryInterval, .retry) ↔
            (∀ record ∈ steps, ¬ record.IsFatal) ∧
              ∃ record ∈ steps, record.step.isPass = true ∧ record.Waits) ∧
          (run.1 = .ok (.afterSeconds settings.syncPeriod, .success) ↔
            ∀ record ∈ steps, record.Succeeds)) := by
  intro run traced steps
  have isInternal : reconcile settings store clients event =
      reconcileInternal settings store clients event := by
    rw [reconcile, if_neg apart, if_neg (Bool.eq_false_iff.mp stays), internal]
  have shows : traced.1 = run.1 ∧ traced.2.world = run.2 := by
    have same := traceInternal_shows settings store clients event ⟨world, []⟩
    rwa [← isInternal] at same
  refine ⟨shows, traceInternal_hasFairIngress settings store clients event world, ?_, ?_⟩
  · exact fun sends => ⟨sends.operator, sends.sessions⟩
  · intro present
    have settled : Settled settings run.1 steps := by
      rw [← shows.1]
      exact traceInternal_settles settings clientsFail storeFails event ⟨world, []⟩
        (by simp [AllDone])
    exact settled.reads present

open Landscape in
/-- Both passes for the red cluster succeed and the management cluster is kept, but the red one is
not: the run fails because of its last step. -/
theorem red_fails_with_its_last_step :
    let run :=
      reconcile controllerSettings FlakyShelf.store (clientFactory FlakyShelf) privateRed flaky
    let steps := (traceInternal controllerSettings FlakyShelf.store (clientFactory FlakyShelf)
      privateRed ⟨flaky, []⟩).2.steps
    run.1 = .error (.kubernetes (.failed "connection reset")) ∧
      steps.getLast?.map (·.step) = some .flushWorkload ∧ ∃ record ∈ steps, record.IsFatal := by
  intro run steps
  have fails : run.1 = .error (.kubernetes (.failed "connection reset")) := by decide +kernel
  obtain ⟨-, -, -, reads⟩ := outcome_of_steps controllerSettings FlakyShelf.failsForGood_store
    (clientFactory_failsForGood FlakyShelf)
    (by decide +kernel : privateRed.key ≠ controllerSettings.managementCluster)
    (by decide +kernel) (by decide +kernel) flaky
  have present : (⟨.loadWorkload, .ok none⟩ : StepRecord) ∉ steps := by decide +kernel
  exact ⟨fails, by decide +kernel, (reads present).1.mp ⟨_, fails⟩⟩

end Controller

end ClusterLinks
