import ClusterLinks.Net.RequestTarget

/-!
# Probes

What the operator answers to those who ask whether it is alive and whether it is ready.
-/

namespace ClusterLinks

structure Health where
  isReady : Bool := false
  deriving DecidableEq

structure ProbeAnswer where
  status : Nat
  body : String
  deriving DecidableEq

/-- What a method gets of an answer. Probes are asked with `GET`, or with `HEAD` for the status
alone. -/
def ProbeAnswer.forMethod (method : String) (answer : ProbeAnswer) : ProbeAnswer :=
  if method = "GET" then answer
  else if method = "HEAD" then ⟨answer.status, ""⟩
  else ⟨405, ""⟩

namespace Health

/-- The operator once it has started its work. -/
def setReady (_ : Health) : Health := ⟨true⟩

/-- What a probe says, if there is one at the path. -/
def probe? (health : Health) (path : String) : Option ProbeAnswer :=
  if path = "/healthz" then some ⟨200, "ok"⟩
  else if path = "/readyz" then some (if health.isReady then ⟨200, "ok"⟩ else ⟨503, "not ready"⟩)
  else none

/-- Whether a text can name a method: a word of letters, digits and some marks. -/
def isMethod (text : String) : Bool :=
  text ≠ "" && text.toList.all fun c => c.isAlphanum || "!#$%&'*+-.^_\x60|~".contains c

/-- Answers a request, none if a request cannot have the method or the target. -/
def answer? (health : Health) (method target : String) : Option ProbeAnswer :=
  match RequestTarget.ofText? target with
  | some target =>
      if isMethod method then
        some (((health.probe? target.path).map (ProbeAnswer.forMethod method)).getD ⟨404, ""⟩)
      else none
  | none => none

end Health

end ClusterLinks
