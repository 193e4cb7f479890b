import ClusterLinks.Action
import ClusterLinks.Json.Shape
import ClusterLinks.Net.IpAddress

/-!
# Endpoints as the provider sees them

An endpoint that exists in Azure, with the network interfaces that were made for it. Its address
is the first one, in the order of interfaces and their configurations, that is an IP address.
-/

namespace ClusterLinks

structure IpConfiguration where
  name : Option String := none
  address : Option String := none
  deriving DecidableEq

structure NetworkInterface where
  id : Option String := none
  configurations : List IpConfiguration := []
  deriving DecidableEq

structure EndpointResource where
  name : Option String := none
  id : Option String := none
  provisioningState : Option String := none
  interfaces : List NetworkInterface := []
  deriving DecidableEq

namespace IpConfiguration

def nameField : Field (Option String) := .optional "name" .string
def addressField : Field (Option String) := .optional "privateIPAddress" .string

def readAddress (document : Json) : Option (Option String) :=
  (Record.entriesOf? ["privateIPAddress"] document).bind addressField.of?

def read (document : Json) : Option IpConfiguration := do
  let entries ← Record.entriesOf? ["name", "properties"] document
  let name ← nameField.of? entries
  match entries.get? "properties" with
  | none => some { name }
  | some properties =>
      let address ← readAddress properties
      some { name, address }

def shape : Shape :=
  .record .ignoring [("name", .any), ("properties", .record .ignoring [("privateIPAddress", .any)])]

end IpConfiguration

namespace NetworkInterface

def idField : Field (Option String) := .optional "id" .string

def readConfigurations (document : Json) : Option (List IpConfiguration) := do
  let entries ← Record.entriesOf? ["ipConfigurations"] document
  match entries.get? "ipConfigurations" with
  | none => some []
  | some configurations =>
      let items ← configurations.items?
      items.mapM IpConfiguration.read

def read (document : Json) : Option NetworkInterface := do
  let entries ← Record.entriesOf? ["id", "properties"] document
  let id ← idField.of? entries
  match entries.get? "properties" with
  | none => some { id }
  | some properties =>
      let configurations ← readConfigurations properties
      some { id, configurations }

def shape : Shape :=
  .record .ignoring
    [("id", .any),
      ("properties", .record .ignoring [("ipConfigurations", .list IpConfiguration.shape)])]

end NetworkInterface

namespace EndpointResource

def nameField : Field (Option String) := .optional "name" .string
def idField : Field (Option String) := .optional "id" .string
def stateField : Field (Option String) := .optional "provisioningState" .string

def readProperties (document : Json) : Option (Option String × List NetworkInterface) := do
  let entries ← Record.entriesOf? ["provisioningState", "networkInterfaces"] document
  let provisioningState ← stateField.of? entries
  match entries.get? "networkInterfaces" with
  | none => some (provisioningState, [])
  | some interfaces =>
      let items ← interfaces.items?
      let interfaces ← items.mapM NetworkInterface.read
      some (provisioningState, interfaces)

def read (document : Json) : Option EndpointResource := do
  let entries ← Record.entriesOf? ["name", "id", "properties"] document
  let name ← nameField.of? entries
  let id ← idField.of? entries
  match entries.get? "properties" with
  | none => some { name, id }
  | some properties =>
      let (provisioningState, interfaces) ← readProperties properties
      some { name, id, provisioningState, interfaces }

def shape : Shape :=
  .record .ignoring
    [("name", .any), ("id", .any),
      ("properties",
        .record .ignoring
          [("provisioningState", .any), ("networkInterfaces", .list NetworkInterface.shape)])]

def reader : Reader EndpointResource := ⟨read, shape⟩

/-- The addresses that are set and not empty, interface by interface. -/
def addresses (resource : EndpointResource) : List String :=
  (resource.interfaces.flatMap (·.configurations)).filterMap fun configuration =>
    configuration.address.filter (· ≠ "")

/-- The address at which the endpoint can be reached. -/
def firstAddress (endpoint : String) (resource : EndpointResource) : Except Error IpAddress :=
  if resource.interfaces.isEmpty then .error (.networkInterfaceNotFound endpoint)
  else
    match resource.addresses.findSome? IpAddress.ofText? with
    | some address => .ok address
    | none => .error (.privateAddressNotAssigned endpoint)

end EndpointResource

/-- Whoever knows which endpoints exist in the resource groups of a subscription. -/
structure EndpointsClient (World : Type) where
  /-- The endpoint of a name in a resource group, if there is one. -/
  lookup (resourceGroup name : String) : Action World (Option EndpointResource)

end ClusterLinks
