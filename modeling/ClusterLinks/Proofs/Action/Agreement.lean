import ClusterLinks.Action

/-!
# Agreement

Two actions in two worlds agree if they come to values that belong together, or to the same failure,
and leave worlds that belong together. This is what it takes to replace one of them by the other.
Agreement is put together along the steps of an action.
-/

namespace ClusterLinks

variable {Outer World α β γ δ : Type}

/-- Two runs agree: on their values and worlds, or on a failure and their worlds. -/
inductive Agree (failing : Outer → World → Prop) (post : α → β → Outer → World → Prop) :
    Except Error α × Outer → Except Error β × World → Prop where
  | ok {value : α} {value' : β} {outer : Outer} {world : World}
      (holds : post value value' outer world) :
      Agree failing post (.ok value, outer) (.ok value', world)
  | error {error : Error} {outer : Outer} {world : World} (holds : failing outer world) :
      Agree failing post (.error error, outer) (.error error, world)

/-- Two runs agree on equal values if they have the same result. -/
theorem Agree.iff_results {after : Outer → World → Prop} {run : Except Error α × Outer}
    {run' : Except Error α × World} :
    Agree after (fun value value' outer world => value = value' ∧ after outer world) run run' ↔
      run.1 = run'.1 ∧ after run.2 run'.2 := by
  rcases run with ⟨result, outer⟩
  rcases run' with ⟨result', world⟩
  constructor
  · intro agree
    cases agree with
    | ok agreed => exact ⟨congrArg Except.ok agreed.1, agreed.2⟩
    | error agreed => exact ⟨rfl, agreed⟩
  · rintro ⟨results, agreed⟩
    cases results
    cases result with
    | ok value => exact .ok ⟨rfl, agreed⟩
    | error error => exact .error agreed

/-- What follows from the agreement on values may take its place. -/
theorem Agree.imp {failing : Outer → World → Prop} {post post' : α → β → Outer → World → Prop}
    {run : Except Error α × Outer} {run' : Except Error β × World}
    (agree : Agree failing post run run')
    (follows : ∀ value value' outer world, post value value' outer world →
      post' value value' outer world) : Agree failing post' run run' := by
  cases agree with
  | ok holds => exact .ok (follows _ _ _ _ holds)
  | error holds => exact .error holds

/-- Runs that agree and cannot fail come to values. -/
theorem Agree.exists_of_ok {post : α → β → Outer → World → Prop} {run : Except Error α × Outer}
    {run' : Except Error β × World} (agree : Agree (fun _ _ => False) post run run') :
    ∃ value value', run.1 = .ok value ∧ run'.1 = .ok value' ∧ post value value' run.2 run'.2 := by
  cases agree with
  | ok holds => exact ⟨_, _, rfl, rfl, holds⟩
  | error impossible => exact impossible.elim

namespace Action

/-- Where the precondition holds of two worlds, the runs of the two actions in them agree. -/
def Agrees (action : Action Outer α) (model : Action World β) (pre failing : Outer → World → Prop)
    (post : α → β → Outer → World → Prop) : Prop :=
  ∀ outer world, pre outer world → Agree failing post (action outer) (model world)

namespace Agrees

variable {action : Action Outer α} {model : Action World β}
variable {next : α → Action Outer γ} {next' : β → Action World δ}
variable {pre failing : Outer → World → Prop} {between : α → β → Outer → World → Prop}
variable {post : γ → δ → Outer → World → Prop}

theorem bind (first : action.Agrees model pre failing between)
    (rest : ∀ value value',
      (next value).Agrees (next' value') (between value value') failing post) :
    (action >>= next).Agrees (model >>= next') pre failing post := by
  intro outer world holds
  have agree := first outer world holds
  rw [bind_run, bind_run]
  cases here : action outer with
  | mk result after =>
    cases there : model world with
    | mk result' after' =>
      rw [here, there] at agree
      cases agree with
      | ok agreed => exact rest _ _ _ _ agreed
      | error agreed => exact .error agreed

theorem imp {post' : α → β → Outer → World → Prop}
    (first : action.Agrees model pre failing between)
    (follows : ∀ value value' outer world, between value value' outer world →
      post' value value' outer world) : action.Agrees model pre failing post' :=
  fun outer world holds => (first outer world holds).imp follows

theorem pure {value : γ} {value' : δ}
    (agreed : ∀ outer world, pre outer world → post value value' outer world) :
    (Pure.pure value : Action Outer γ).Agrees (Pure.pure value' : Action World δ) pre failing
      post :=
  fun outer world holds => .ok (agreed outer world holds)

theorem fail {error : Error} (agreed : ∀ outer world, pre outer world → failing outer world) :
    (Action.fail error : Action Outer γ).Agrees (Action.fail error : Action World δ) pre failing
      post :=
  fun outer world holds => .error (agreed outer world holds)

theorem ofExcept {result : Except Error γ} {post : γ → γ → Outer → World → Prop}
    (succeeds : ∀ value, result = .ok value → ∀ outer world, pre outer world →
      post value value outer world)
    (fails : ∀ outer world, pre outer world → failing outer world) :
    (Action.ofExcept result).Agrees (Action.ofExcept result) pre failing post := by
  intro outer world holds
  cases result with
  | ok value => exact .ok (succeeds value rfl outer world holds)
  | error error => exact .error (fails outer world holds)

/-- What an action that is attempted comes to is a value. -/
theorem attempt {failing' : Outer → World → Prop}
    {last : Except Error α → Except Error β → Outer → World → Prop}
    (first : action.Agrees model pre failing' between)
    (succeeds : ∀ value value' outer world, between value value' outer world →
      last (.ok value) (.ok value') outer world)
    (fails : ∀ error outer world, failing' outer world →
      last (.error error) (.error error) outer world) :
    action.attempt.Agrees model.attempt pre failing last := by
  intro outer world holds
  have agree := first outer world holds
  rw [attempt_run, attempt_run]
  cases here : action outer with
  | mk result after =>
    cases there : model world with
    | mk result' after' =>
      rw [here, there] at agree
      cases agree with
      | ok agreed => exact .ok (succeeds _ _ _ _ agreed)
      | error agreed => exact .ok (fails _ _ _ agreed)

end Agrees

/-! ## The same results -/

/-- In worlds that are alike the two actions have the same result, and they leave worlds that are
alike. -/
def Matches (action : Action Outer α) (model : Action World α) (alike : Outer → World → Prop) :
    Prop :=
  action.Agrees model alike alike fun value value' outer world => value = value' ∧ alike outer world

namespace Matches

variable {action : Action Outer α} {model : Action World α} {alike : Outer → World → Prop}
variable {next : α → Action Outer β} {next' : α → Action World γ}

theorem iff_results : action.Matches model alike ↔ ∀ outer world, alike outer world →
    (action outer).1 = (model world).1 ∧ alike (action outer).2 (model world).2 := by
  simp only [Matches, Agrees, Agree.iff_results]

/-- What comes next is the same for both, since it comes after the same value. -/
theorem bind {post : β → γ → Outer → World → Prop} (first : action.Matches model alike)
    (rest : ∀ value, (next value).Agrees (next' value) alike alike post) :
    (action >>= next).Agrees (model >>= next') alike alike post := by
  refine Agrees.bind first fun value value' => ?_
  rintro outer world ⟨rfl, holds⟩
  exact rest value outer world holds

theorem pure (value : α) :
    (Pure.pure value : Action Outer α).Matches (Pure.pure value : Action World α) alike :=
  Agrees.pure fun _ _ holds => ⟨rfl, holds⟩

theorem ofExcept (result : Except Error α) :
    (Action.ofExcept result : Action Outer α).Matches (Action.ofExcept result : Action World α)
      alike :=
  Agrees.ofExcept (fun _ _ _ _ holds => ⟨rfl, holds⟩) fun _ _ holds => holds

/-- What both see of their worlds is the same. -/
theorem inspect {view : Outer → α} {view' : World → α}
    (same : ∀ outer world, alike outer world → view outer = view' world) :
    (Action.inspect view).Matches (Action.inspect view') alike :=
  fun outer world holds => .ok ⟨same outer world holds, holds⟩

/-- Both act on a part of a larger world. -/
theorem within {Outer' World' : Type} {alike' : Outer' → World' → Prop} {part : Outer' → Outer}
    {put : Outer → Outer' → Outer'} {part' : World' → World} {put' : World → World' → World'}
    (first : action.Matches model alike)
    (parts : ∀ outer world, alike' outer world → alike (part outer) (part' world))
    (puts : ∀ outer world, alike' outer world → ∀ inner inner', alike inner inner' →
      alike' (put inner outer) (put' inner' world)) :
    (action.within part put).Matches (model.within part' put') alike' := by
  rw [iff_results] at first ⊢
  intro outer world holds
  obtain ⟨results, worlds⟩ := first _ _ (parts outer world holds)
  exact ⟨results, puts outer world holds _ _ worlds⟩

end Matches

end Action

end ClusterLinks
