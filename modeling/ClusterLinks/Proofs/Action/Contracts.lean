import ClusterLinks.Proofs.Controller.Plan
import ClusterLinks.Proofs.Store.Failures

/-!
# Contracts

A contract says what an action comes to and what world it leaves, given what holds of the world it
starts in. It speaks about failures as well as about values, since what was done before a failure
stays done. Contracts are put together along the steps of an action. The simplest one holds in every
world: if the action fails, then waiting does not help.
-/

namespace ClusterLinks.Action

variable {World Outer α β : Type}
variable {action : Action World α} {next : α → Action World β}

/-- Where the precondition holds, what the action comes to and the world that it leaves meet the
postcondition. -/
def Meets (action : Action World α) (pre : World → Prop) (post : Except Error α → World → Prop) :
    Prop :=
  ∀ world, pre world → post (action world).1 (action world).2

namespace Meets

variable {pre pre' : World → Prop} {between post' : Except Error α → World → Prop}
variable {post : Except Error β → World → Prop}

/-- An action that fails is the end, so its failure has to meet the postcondition of the whole. -/
theorem bind (first : action.Meets pre between)
    (fails : ∀ error world, between (.error error) world → post (.error error) world)
    (rest : ∀ value, (next value).Meets (between (.ok value)) post) :
    (action >>= next).Meets pre post := by
  intro world holds
  have met := first world holds
  rw [bind_run]
  cases answer : action world with
  | mk result after =>
    rw [answer] at met
    cases result with
    | error error => exact fails error after met
    | ok value => exact rest value after met

/-- Looking at the world changes nothing. -/
theorem bind_inspect {read : World → α} (rest : ∀ value, (next value).Meets pre post) :
    (Action.inspect read >>= next).Meets pre post :=
  fun world => rest (read world) world

theorem ofExcept {result : Except Error β} (meets : ∀ world, pre world → post result world) :
    (Action.ofExcept result).Meets pre post :=
  meets

theorem pure {value : β} (meets : ∀ world, pre world → post (.ok value) world) :
    (Pure.pure value : Action World β).Meets pre post :=
  meets

theorem and (first : action.Meets pre between) (second : action.Meets pre' post') :
    action.Meets (fun world => pre world ∧ pre' world)
      fun result world => between result world ∧ post' result world :=
  fun world holds => ⟨first world holds.1, second world holds.2⟩

/-- What an action keeps, it keeps whatever it comes to. -/
theorem of_keeps {related : World → World → Prop} (keeps : action.Keeps related)
    (stable : ∀ before after, related before after → pre before → pre after) :
    action.Meets pre fun _ => pre :=
  fun world => stable _ _ (keeps world)

end Meets

/-! ## Failures for good -/

/-- If the action fails, then waiting does not help. -/
def FailsForGood (action : Action World α) : Prop :=
  ∀ world error, (action world).1 = .error error → error.isRetryable = false

namespace FailsForGood

theorem bind (first : action.FailsForGood)
    (rest : ∀ world value, (action world).1 = .ok value → (next value).FailsForGood) :
    (action >>= next).FailsForGood := by
  intro world error fails
  cases bind_cases action next world with
  | inl failed =>
      obtain ⟨error', fails', ends⟩ := failed
      rw [ends] at fails
      cases fails
      exact first world error fails'
  | inr succeeded =>
      obtain ⟨value, found, goesOn⟩ := succeeded
      rw [goesOn] at fails
      exact rest world value found _ error fails

theorem pure (value : α) : (Pure.pure value : Action World α).FailsForGood := by
  intro world error fails
  cases fails

theorem attempt (action : Action World α) : action.attempt.FailsForGood := by
  intro world error fails
  cases fails

theorem step (change : World → α × World) : (Action.step change).FailsForGood := by
  intro world error fails
  cases fails

theorem fail {error : Error} (fatal : error.isRetryable = false) :
    (Action.fail error : Action World α).FailsForGood := by
  intro world error' fails
  cases fails
  exact fatal

theorem ofOption {error : Error} (fatal : error.isRetryable = false) (value? : Option α) :
    (Action.ofOption error value? : Action World α).FailsForGood := by
  cases value? with
  | none => exact fail fatal
  | some value => exact pure value

theorem ofExcept {result : Except Error α}
    (fatal : ∀ error, result = .error error → error.isRetryable = false) :
    (Action.ofExcept result : Action World α).FailsForGood :=
  fun _ => fatal

theorem within {part : Outer → World} {put : World → Outer → Outer} (first : action.FailsForGood) :
    (action.within part put).FailsForGood :=
  fun outer => first (part outer)

end FailsForGood

end ClusterLinks.Action
