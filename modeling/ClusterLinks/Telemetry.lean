import ClusterLinks.Net.RequestTarget

/-!
# Logs and metrics

How log lines look, when logging can be set up, and whether metrics are exported.
-/

namespace ClusterLinks

inductive LogFormat where
  /-- One JSON object per line. -/
  | json
  /-- Lines for people to read. -/
  | text
  deriving DecidableEq

namespace LogFormat

/-- The format that is used unless another one is asked for. -/
def standard : LogFormat := .json

/-- The name of a format, in any case; a failure is the text to show for it. -/
def ofText? (text : String) : Except String LogFormat :=
  let name := String.ofList (text.toList.map Char.toLower)
  if name = "json" then .ok .json
  else if name = "text" ∨ name = "plain" then .ok .text
  else .error ("unknown log format '" ++ name ++ "', expected json or text")

def toText : LogFormat → String
  | json => "json"
  | text => "text"

end LogFormat

/-- What keeps telemetry from being set up. -/
inductive TelemetryError where
  | metrics (reason : String)
  | logging (reason : String)
  deriving DecidableEq

def TelemetryError.message : TelemetryError → String
  | metrics reason => "failed to initialize metrics exporter: " ++ reason
  | logging reason => "failed to initialize tracing subscriber: " ++ reason

namespace Telemetry

/-- What log lines pass unless the environment says otherwise. -/
def standardFilter : String := "info,privlink=debug,kube=info,tower=warn,hyper=warn"

/-- Sets the format of log lines, which can be done once. -/
def startLogging (installed : Option LogFormat) (format : LogFormat) :
    Except TelemetryError LogFormat :=
  match installed with
  | none => .ok format
  | some _ => .error (.logging "a global default trace dispatcher has already been set")

/-- Where metrics are sent to, if anywhere. -/
def metricsTarget (endpoint : Option String) : Except TelemetryError (Option RequestTarget) :=
  match endpoint with
  | none | some "" => .ok none
  | some endpoint =>
      match RequestTarget.ofText? endpoint with
      | some target => .ok (some target)
      | none => .error (.metrics "invalid URI")

end Telemetry

end ClusterLinks
