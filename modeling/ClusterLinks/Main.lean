import ClusterLinks.Controller.Round
import ClusterLinks.Operator
import ClusterLinks.Rehearsal.Report
import ClusterLinks.Rehearsal.Script
import ClusterLinks.Settings.CommandLine

/-!
# The program

Reads settings from the command line and a script from standard input, looks once at every
cluster in the script, and prints what was asked for and how the runs were counted.
-/

namespace ClusterLinks.Main

/-- A round over the clusters of a world, as a report. -/
def rehearse (settings : Settings) (world : CloudWorld) : Script.Reading Json := do
  let clusters ← (world.server.objectsOf .cluster).mapM fun (_, value) =>
    Script.document Cluster.read value
  let (counts, state) :=
    Controller.round settings.controller (Operator.store CloudWorld.connection)
      (Sessions.clients settings.azure CloudWorld.connection CloudWorld.surroundings) clusters
      { world }
  .ok <| .ofEntries
    [("counted", Report.strings (counts.map RunCount.label)),
      ("log", Report.cloudLog state.world)]

/-- The report on a script, or what is wrong with it. -/
def report (settings : Settings) (script : String) : Except String Json :=
  match Json.ofText? script with
  | none => .error "the script is not a document"
  | some script =>
      match (Script.cloud script).bind (rehearse settings) with
      | .ok report => .ok report
      | .error (.unknown entry) => .error ("the script has an unknown " ++ entry)
      | .error .undecodable => .error "an object in the script is not what it should be"

/-- The settings that the program is started with, or what is wrong with them. -/
def settings (arguments : List String) (environment : String → Option String) :
    Except String Settings :=
  match CommandLine.settings arguments environment with
  | .error problem => .error problem.message
  | .ok settings =>
      match settings.validate with
      | .error error => .error error.message
      | .ok _ =>
          match Telemetry.metricsTarget settings.metricsEndpoint with
          | .error error => .error error.message
          | .ok _ => .ok settings

/-- The environment variables of the settings. -/
def environment : IO (Entries String) := do
  let given ← SettingName.all.mapM fun name => do
    let value? ← IO.getEnv name.environmentVariable
    pure (value?.map (name.environmentVariable, ·))
  pure (given.filterMap id)

end ClusterLinks.Main

def main (arguments : List String) : IO UInt32 := do
  let environment ← ClusterLinks.Main.environment
  match ClusterLinks.Main.settings arguments environment.get? with
  | .error message => do
      IO.eprintln message
      pure 2
  | .ok settings => do
      let input ← IO.getStdin
      let script ← input.readToEnd
      match ClusterLinks.Main.report settings script with
      | .error message => do
          IO.eprintln message
          pure 1
      | .ok report => do
          IO.println report.toText
          pure 0
