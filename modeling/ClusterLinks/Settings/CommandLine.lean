import ClusterLinks.Settings

/-!
# Settings from the command line

Options are read from left to right, and what is wrong with an option is noticed when the next
one starts or the line ends. Environment variables give the settings that no option gives.
-/

namespace ClusterLinks

/-- A setting that has an option and an environment variable. -/
inductive SettingName where
  | managementClusterName
  | managementClusterSpace
  | syncPeriod
  | retryInterval
  | logFormat
  | healthAddress
  | resourceManager
  | authorityHost
  | tokenFile
  | metricsEndpoint
  deriving DecidableEq

namespace SettingName

/-- All settings, in the order in which environment variables are looked at. -/
def all : List SettingName :=
  [managementClusterName, managementClusterSpace, syncPeriod, retryInterval, logFormat,
    healthAddress, resourceManager, authorityHost, tokenFile, metricsEndpoint]

/-- The name of the option. -/
def option : SettingName → String
  | managementClusterName => "management-cluster-name"
  | managementClusterSpace => "management-cluster-namespace"
  | syncPeriod => "sync-period"
  | retryInterval => "retry-interval"
  | logFormat => "log-format"
  | healthAddress => "health-probe-bind-address"
  | resourceManager => "arm-endpoint"
  | authorityHost => "azure-authority-host"
  | tokenFile => "azure-federated-token-file"
  | metricsEndpoint => "otlp-endpoint"

/-- The name of the environment variable. -/
def environmentVariable : SettingName → String
  | managementClusterName => "PRIVLINK_MANAGEMENT_CLUSTER_NAME"
  | managementClusterSpace => "PRIVLINK_MANAGEMENT_CLUSTER_NAMESPACE"
  | syncPeriod => "PRIVLINK_SYNC_PERIOD"
  | retryInterval => "PRIVLINK_RETRY_INTERVAL"
  | logFormat => "PRIVLINK_LOG_FORMAT"
  | healthAddress => "PRIVLINK_HEALTH_PROBE_BIND_ADDRESS"
  | resourceManager => "PRIVLINK_ARM_ENDPOINT"
  | authorityHost => "AZURE_AUTHORITY_HOST"
  | tokenFile => "AZURE_FEDERATED_TOKEN_FILE"
  | metricsEndpoint => "OTEL_EXPORTER_OTLP_ENDPOINT"

def ofOption? (name : String) : Option SettingName :=
  all.find? (·.option = name)

end SettingName

/-- Why a command line gives no settings. -/
inductive CommandLineProblem where
  | missingRequired
  | unknownArgument
  | invalidValue
  /-- An option without a value, or a path without a character. -/
  | missingValue
  | givenTwice
  | unexpectedValue
  | helpWanted
  | versionWanted
  deriving DecidableEq

namespace CommandLineProblem

def message : CommandLineProblem → String
  | missingRequired => "a required option is missing"
  | unknownArgument => "there is an unknown argument"
  | invalidValue => "an option has an invalid value"
  | missingValue => "an option has no value"
  | givenTwice => "an option is given twice"
  | unexpectedValue => "an option that takes no value has one"
  | helpWanted => "help is asked for"
  | versionWanted => "the version is asked for"

end CommandLineProblem

/-- The settings given so far. -/
structure GivenSettings where
  managementClusterName : Option String := none
  managementClusterSpace : Option String := none
  syncPeriod : Option Nat := none
  retryInterval : Option Nat := none
  logFormat : Option LogFormat := none
  healthAddress : Option SocketAddress := none
  resourceManager : Option String := none
  authorityHost : Option String := none
  tokenFile : Option String := none
  metricsEndpoint : Option String := none
  deriving DecidableEq

namespace GivenSettings

def has (given : GivenSettings) : SettingName → Bool
  | .managementClusterName => given.managementClusterName.isSome
  | .managementClusterSpace => given.managementClusterSpace.isSome
  | .syncPeriod => given.syncPeriod.isSome
  | .retryInterval => given.retryInterval.isSome
  | .logFormat => given.logFormat.isSome
  | .healthAddress => given.healthAddress.isSome
  | .resourceManager => given.resourceManager.isSome
  | .authorityHost => given.authorityHost.isSome
  | .tokenFile => given.tokenFile.isSome
  | .metricsEndpoint => given.metricsEndpoint.isSome

def seconds (text : String) : Except CommandLineProblem Nat :=
  match Decimal.unsigned? Decimal.max64 text with
  | some seconds => .ok seconds
  | none => .error .invalidValue

def logFormatOf (text : String) : Except CommandLineProblem LogFormat :=
  match LogFormat.ofText? text with
  | .ok format => .ok format
  | .error _ => .error .invalidValue

def addressOf (text : String) : Except CommandLineProblem SocketAddress :=
  match SocketAddress.ofText? text with
  | some address => .ok address
  | none => .error .invalidValue

def pathOf (text : String) : Except CommandLineProblem String :=
  if text = "" then .error .missingValue else .ok text

/-- Reads the value of a setting. -/
def set (given : GivenSettings) (name : SettingName) (text : String) :
    Except CommandLineProblem GivenSettings :=
  match name with
  | .managementClusterName => .ok { given with managementClusterName := some text }
  | .managementClusterSpace => .ok { given with managementClusterSpace := some text }
  | .syncPeriod => do
      let seconds ← seconds text
      .ok { given with syncPeriod := some seconds }
  | .retryInterval => do
      let seconds ← seconds text
      .ok { given with retryInterval := some seconds }
  | .logFormat => do
      let format ← logFormatOf text
      .ok { given with logFormat := some format }
  | .healthAddress => do
      let address ← addressOf text
      .ok { given with healthAddress := some address }
  | .resourceManager => .ok { given with resourceManager := some text }
  | .authorityHost => .ok { given with authorityHost := some text }
  | .tokenFile => do
      let path ← pathOf text
      .ok { given with tokenFile := some path }
  | .metricsEndpoint => .ok { given with metricsEndpoint := some text }

/-- The settings, where those that are not given have their usual values. -/
def complete (given : GivenSettings) : Except CommandLineProblem Settings :=
  match given.managementClusterName, given.managementClusterSpace with
  | some name, some space =>
      let usual : Settings := { managementCluster := ⟨space, name⟩ }
      .ok
        { managementCluster := ⟨space, name⟩
          syncPeriod := given.syncPeriod.getD usual.syncPeriod
          retryInterval := given.retryInterval.getD usual.retryInterval
          logFormat := given.logFormat.getD usual.logFormat
          healthAddress := given.healthAddress.getD usual.healthAddress
          azure :=
            { resourceManager := given.resourceManager.getD usual.azure.resourceManager
              authorityHost := given.authorityHost.getD usual.azure.authorityHost
              tokenFile := given.tokenFile.getD usual.azure.tokenFile }
          metricsEndpoint := given.metricsEndpoint }
  | _, _ => .error .missingRequired

end GivenSettings

/-- One argument of a command line. -/
inductive Argument where
  /-- Two dashes alone: there are no options behind it. -/
  | endOfOptions
  | long (name : String) (value : Option String)
  | short (first : Char)
  | plain (text : String)
  deriving DecidableEq

def Argument.ofText (text : String) : Argument :=
  match text.toList with
  | ['-', '-'] => .endOfOptions
  | '-' :: '-' :: rest =>
      let name := String.ofList (rest.takeWhile (· ≠ '='))
      match rest.dropWhile (· ≠ '=') with
      | _ :: value => .long name (some (String.ofList value))
      | [] => .long name none
  | '-' :: first :: _ => .short first
  | _ => .plain text

/-- A command line while it is read: the settings given so far, and the option that was read
last with the value that followed it. -/
structure CommandLine where
  given : GivenSettings := {}
  open? : Option (SettingName × Option String) := none
  deriving DecidableEq

namespace CommandLine

/-- Takes the value of an option that may be given once. -/
def take (given : GivenSettings) (name : SettingName) (text : String) :
    Except CommandLineProblem GivenSettings :=
  if given.has name then .error .givenTwice else given.set name text

/-- Finishes the option that was read last. -/
def finish (line : CommandLine) : Except CommandLineProblem GivenSettings :=
  match line.open? with
  | none => .ok line.given
  | some (_, none) => .error .missingValue
  | some (name, some text) => take line.given name text

/-- Stops at an option that asks for something else than a run. -/
def stop (line : CommandLine) (problem : CommandLineProblem) :
    Except CommandLineProblem CommandLine := do
  let _ ← line.finish
  .error problem

/-- Reads an option with a long name. -/
def readLong (line : CommandLine) (name : String) (value? : Option String) :
    Except CommandLineProblem CommandLine :=
  match SettingName.ofOption? name, value? with
  | some setting, none => do
      let given ← line.finish
      .ok ⟨given, some (setting, none)⟩
  | some setting, some value => do
      let given ← line.finish
      let given ← take given setting value
      .ok ⟨given, none⟩
  | none, value? =>
      if name = "help" ∨ name = "version" then
        if value?.isSome then .error .unexpectedValue
        else line.stop (if name = "help" then .helpWanted else .versionWanted)
      else .error .unknownArgument

/-- Reads one argument in front of the end of the options. -/
def readArgument (line : CommandLine) : Argument → Except CommandLineProblem CommandLine
  | .long name value? => line.readLong name value?
  | .short 'h' => line.stop .helpWanted
  | .short 'V' => line.stop .versionWanted
  | .plain text =>
      match line.open? with
      | some (setting, none) => .ok { line with open? := some (setting, some text) }
      | _ => .error .unknownArgument
  | _ => .error .unknownArgument

/-- Reads arguments up to the end; none may follow the end of the options. -/
def read (line : CommandLine) : List String → Except CommandLineProblem GivenSettings
  | [] => line.finish
  | text :: rest =>
      match Argument.ofText text with
      | .endOfOptions => if rest.isEmpty then line.finish else .error .unknownArgument
      | argument =>
          match line.readArgument argument with
          | .ok line => line.read rest
          | .error problem => .error problem

/-- Reads the variables of the settings that are not given yet. -/
def readEnvironment (environment : String → Option String) (given : GivenSettings) :
    List SettingName → Except CommandLineProblem GivenSettings
  | [] => .ok given
  | name :: rest =>
      match given.has name, environment name.environmentVariable with
      | false, some text => do
          let given ← given.set name text
          readEnvironment environment given rest
      | _, _ => readEnvironment environment given rest

/-- Whether a process can have the variables: a name is not empty and has no equals sign, and there
is no null character in any text. -/
def isEnvironment (environment : Entries String) : Bool :=
  environment.all fun (name, value) =>
    name ≠ "" && !name.toList.contains '=' && !(name ++ value).toList.contains '\x00'

/-- The settings that a command line and an environment give. -/
def settings (arguments : List String) (environment : String → Option String) :
    Except CommandLineProblem Settings := do
  let given ← read {} arguments
  let given ← readEnvironment environment given SettingName.all
  given.complete

end CommandLine

end ClusterLinks
