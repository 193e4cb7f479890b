import ClusterLinks.Azure.Sessions
import ClusterLinks.Net.SocketAddress
import ClusterLinks.Telemetry

/-!
# Settings

What the operator can be told when it starts. Some settings are well-formed and still make no
sense; `Settings.validate` finds the first of these.
-/

namespace ClusterLinks

structure Settings where
  managementCluster : ObjectKey
  /-- Seconds until a cluster that is up to date is looked at again. -/
  syncPeriod : Nat := 300
  /-- Seconds until a cluster that has to wait is looked at again. -/
  retryInterval : Nat := 60
  logFormat : LogFormat := LogFormat.standard
  /-- Where probes are answered. -/
  healthAddress : SocketAddress := ⟨.v4 #v[0, 0, 0, 0], 0, 8081⟩
  azure : AzureSettings := {}
  /-- Where metrics are sent to. -/
  metricsEndpoint : Option String := none
  deriving DecidableEq

namespace Settings

/-- Whether there is nothing but blanks in the text. -/
def isBlank (text : String) : Bool :=
  text.toList.all Text.isBlank

def validate (settings : Settings) : Except Error Unit :=
  if isBlank settings.managementCluster.name then
    .error (.invalidConfig "management cluster name must not be empty")
  else if isBlank settings.managementCluster.space then
    .error (.invalidConfig "management cluster namespace must not be empty")
  else if settings.syncPeriod = 0 then .error (.invalidConfig "sync period must be positive")
  else if settings.retryInterval = 0 then
    .error (.invalidConfig "retry interval must be positive")
  else .ok ()

def controller (settings : Settings) : ControllerSettings where
  managementCluster := settings.managementCluster
  syncPeriod := settings.syncPeriod
  retryInterval := settings.retryInterval

end Settings

end ClusterLinks
