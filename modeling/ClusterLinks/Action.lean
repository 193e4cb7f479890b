import ClusterLinks.Error

/-!
# Actions on a world

An `Action` may fail and may change the world it runs in. What it did to the world before it
failed stays done, so a failed run still has a final world to speak about.
-/

namespace ClusterLinks

/-- A computation in a world that may fail. -/
def Action (World α : Type) : Type :=
  World → Except Error α × World

namespace Action

variable {World Outer α β : Type}

instance : Monad (Action World) where
  pure value world := (.ok value, world)
  bind action next world :=
    match action world with
    | (.ok value, world) => next value world
    | (.error error, world) => (.error error, world)

@[simp] theorem pure_run (value : α) (world : World) :
    (pure value : Action World α) world = (.ok value, world) := rfl

theorem bind_run (action : Action World α) (next : α → Action World β) (world : World) :
    (action >>= next) world =
      match action world with
      | (.ok value, world) => next value world
      | (.error error, world) => (.error error, world) := rfl

/-- An action that succeeds hands its value and its world to the next one. -/
theorem bind_of_ok {action : Action World α} {world after : World} {value : α}
    (succeeds : action world = (.ok value, after)) (next : α → Action World β) :
    (action >>= next) world = next value after := by
  rw [bind_run, succeeds]

/-- An action that fails is the end. -/
theorem bind_of_error {action : Action World α} {world after : World} {error : Error}
    (fails : action world = (.error error, after)) (next : α → Action World β) :
    (action >>= next) world = (.error error, after) := by
  rw [bind_run, fails]

instance : LawfulMonad (Action World) :=
  LawfulMonad.mk' _
    (fun action => by
      funext world
      simp only [Functor.map]
      rcases action world with ⟨_ | _, _⟩ <;> rfl)
    (fun _ _ => rfl)
    (fun action _ _ => by
      funext world
      simp only [bind_run]
      rcases action world with ⟨_ | _, _⟩ <;> rfl)

def fail (error : Error) : Action World α :=
  fun world => (.error error, world)

/-- Goes on with a result that is already there. -/
def ofExcept (result : Except Error α) : Action World α :=
  fun world => (result, world)

/-- Goes on with a value or fails. -/
def ofOption (error : Error) (value? : Option α) : Action World α :=
  match value? with
  | some value => pure value
  | none => fail error

/-- Runs an action and never fails: its result is the value. -/
def attempt (action : Action World α) : Action World (Except Error α) :=
  fun world =>
    let (result, world) := action world
    (.ok result, world)

/-- A value that depends on the world. -/
def inspect (view : World → α) : Action World α :=
  fun world => (.ok (view world), world)

def modify (change : World → World) : Action World Unit :=
  fun world => (.ok (), change world)

/-- A step that changes the world and cannot fail. -/
def step (change : World → α × World) : Action World α :=
  fun world =>
    let (value, world) := change world
    (.ok value, world)

/-- Runs an action on a part of the world. -/
def within (part : Outer → World) (put : World → Outer → Outer) (action : Action World α) :
    Action Outer α :=
  fun outer =>
    let (result, world) := action (part outer)
    (result, put world outer)

@[simp] theorem fail_run (error : Error) (world : World) :
    (fail error : Action World α) world = (.error error, world) := rfl

@[simp] theorem ofExcept_run (result : Except Error α) (world : World) :
    ofExcept result world = (result, world) := rfl

@[simp] theorem attempt_run (action : Action World α) (world : World) :
    action.attempt world = (.ok (action world).1, (action world).2) := rfl

@[simp] theorem inspect_run (view : World → α) (world : World) :
    inspect view world = (.ok (view world), world) := rfl

@[simp] theorem modify_run (change : World → World) (world : World) :
    modify change world = (.ok (), change world) := rfl

@[simp] theorem step_run (change : World → α × World) (world : World) :
    step change world = (.ok (change world).1, (change world).2) := rfl

@[simp] theorem within_run (part : Outer → World) (put : World → Outer → Outer)
    (action : Action World α) (outer : Outer) :
    action.within part put outer =
      ((action (part outer)).1, put (action (part outer)).2 outer) := rfl

end Action

end ClusterLinks
