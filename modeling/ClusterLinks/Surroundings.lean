import ClusterLinks.Action
import ClusterLinks.Http.Message

/-!
# What lies outside

The operator reaches Azure over HTTP, looks at a clock and reads files. `Surroundings` is all
that it knows of them, and `Clock.after` is the only arithmetic it does on times.
-/

namespace ClusterLinks

structure Surroundings (World : Type) where
  /-- Sends a request; there may be no answer. -/
  send (request : Http.Request) : Action World (Option Http.Reply)
  /-- The time in seconds. -/
  now (world : World) : Int
  /-- The text of a file, or why it cannot be read. -/
  readFile (path : String) (world : World) : Except String String

namespace Clock

/-- The last second that the clock can represent, a signed number of 64 bits. -/
def lastSecond : Int := Int64.maxValue.toInt

/-- The time a number of seconds after another one. -/
def after (time : Int) (seconds : Nat) : Except Error Int :=
  if time + seconds ≤ lastSecond then .ok (time + seconds) else .error .clockOverflow

end Clock

namespace Surroundings

variable {World Outer : Type}

/-- What lies outside of a larger world. -/
def within (part : Outer → World) (put : World → Outer → Outer)
    (surroundings : Surroundings World) : Surroundings Outer where
  send request := (surroundings.send request).within part put
  now outer := surroundings.now (part outer)
  readFile path outer := surroundings.readFile path (part outer)

/-- Sends a request that may not even have been made, and waits for the answer. -/
def ask (surroundings : Surroundings World) (request? : Except Http.Problem Http.Request) :
    Action World (Except Http.Problem Http.Reply) :=
  match request? with
  | .error problem => pure (.error problem)
  | .ok request => do
      let reply? ← surroundings.send request
      match reply? with
      | some reply => pure (.ok reply)
      | none => pure (.error (.unanswered request.url))

end Surroundings

end ClusterLinks
