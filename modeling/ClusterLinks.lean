import ClusterLinks.Action
import ClusterLinks.Azure.Credential
import ClusterLinks.Azure.EndpointsClient
import ClusterLinks.Azure.Identity
import ClusterLinks.Azure.Sessions
import ClusterLinks.Azure.Token
import ClusterLinks.Cluster
import ClusterLinks.Cluster.Document
import ClusterLinks.ClusterIdentity
import ClusterLinks.Controller
import ClusterLinks.Controller.Round
import ClusterLinks.Conventions
import ClusterLinks.Dictionary
import ClusterLinks.Endpoint.Directory
import ClusterLinks.Endpoint.Resource
import ClusterLinks.Endpoint.Table
import ClusterLinks.Endpoint.Wanted
import ClusterLinks.Error
import ClusterLinks.Health
import ClusterLinks.Http.Message
import ClusterLinks.Http.Peer
import ClusterLinks.Http.Status
import ClusterLinks.Json
import ClusterLinks.Json.MergePatch
import ClusterLinks.Json.Record
import ClusterLinks.Json.Shape
import ClusterLinks.Json.Text
import ClusterLinks.Json.Written
import ClusterLinks.Kubernetes.Client
import ClusterLinks.Kubernetes.ClusterStore
import ClusterLinks.Kubernetes.Request
import ClusterLinks.Kubernetes.Secret
import ClusterLinks.Kubernetes.Server
import ClusterLinks.Link.Directory
import ClusterLinks.Main
import ClusterLinks.Net.Domain
import ClusterLinks.Net.Domain.Mapping
import ClusterLinks.Net.IpAddress
import ClusterLinks.Net.RequestTarget
import ClusterLinks.Net.SocketAddress
import ClusterLinks.Net.Url
import ClusterLinks.Net.Url.Host
import ClusterLinks.Net.Url.Path
import ClusterLinks.Net.Url.Text
import ClusterLinks.Operator
import ClusterLinks.Pass
import ClusterLinks.Proofs.Action.Agreement
import ClusterLinks.Proofs.Action.Contracts
import ClusterLinks.Proofs.Azure.AddressedLookUps
import ClusterLinks.Proofs.Azure.Expiry
import ClusterLinks.Proofs.Azure.HiddenSecrets
import ClusterLinks.Proofs.Azure.KeptTokens
import ClusterLinks.Proofs.Azure.SecretsApart
import ClusterLinks.Proofs.Azure.SharedClients
import ClusterLinks.Proofs.Azure.Traffic
import ClusterLinks.Proofs.Cluster.Core
import ClusterLinks.Proofs.Cluster.Documents
import ClusterLinks.Proofs.Cluster.RoundTrip
import ClusterLinks.Proofs.Cluster.WriteBack
import ClusterLinks.Proofs.Controller.Contents
import ClusterLinks.Proofs.Controller.Convergence
import ClusterLinks.Proofs.Controller.FailingForGood
import ClusterLinks.Proofs.Controller.Flushing
import ClusterLinks.Proofs.Controller.Guards
import ClusterLinks.Proofs.Controller.IngressTurn
import ClusterLinks.Proofs.Controller.Lifetime
import ClusterLinks.Proofs.Controller.Outcomes
import ClusterLinks.Proofs.Controller.Plan
import ClusterLinks.Proofs.Controller.Runs
import ClusterLinks.Proofs.Controller.Steps
import ClusterLinks.Proofs.Controller.Teardown
import ClusterLinks.Proofs.Controller.Watching
import ClusterLinks.Proofs.Controller.WriteFrame
import ClusterLinks.Proofs.Dictionary.Lookup
import ClusterLinks.Proofs.Endpoint.Addresses
import ClusterLinks.Proofs.Endpoint.Connections
import ClusterLinks.Proofs.Endpoint.Hosting
import ClusterLinks.Proofs.Endpoint.Lists
import ClusterLinks.Proofs.Json.Keeping
import ClusterLinks.Proofs.Json.MergePatch
import ClusterLinks.Proofs.Json.RoundTrip
import ClusterLinks.Proofs.Kubernetes.Corresponding
import ClusterLinks.Proofs.Kubernetes.Filing
import ClusterLinks.Proofs.Kubernetes.Finalizers
import ClusterLinks.Proofs.Kubernetes.Guarding
import ClusterLinks.Proofs.Kubernetes.Interleavings
import ClusterLinks.Proofs.Kubernetes.Names
import ClusterLinks.Proofs.Kubernetes.Refinement
import ClusterLinks.Proofs.Kubernetes.Serving
import ClusterLinks.Proofs.Kubernetes.Storing
import ClusterLinks.Proofs.Kubernetes.Vanished
import ClusterLinks.Proofs.Link.Identifiers
import ClusterLinks.Proofs.Link.Records
import ClusterLinks.Proofs.Net.BareAddresses
import ClusterLinks.Proofs.Net.Paths
import ClusterLinks.Proofs.Net.Percent
import ClusterLinks.Proofs.Pass.Content
import ClusterLinks.Proofs.Pass.Effect
import ClusterLinks.Proofs.Pass.Exact
import ClusterLinks.Proofs.Pass.Findings
import ClusterLinks.Proofs.Pass.Footprint
import ClusterLinks.Proofs.Pass.Histories
import ClusterLinks.Proofs.Pass.LookUps
import ClusterLinks.Proofs.Pass.Order
import ClusterLinks.Proofs.Pass.Reach
import ClusterLinks.Proofs.Pass.Removal
import ClusterLinks.Proofs.Pass.Repetition
import ClusterLinks.Proofs.Pass.Resumption
import ClusterLinks.Proofs.Pass.SharedNames
import ClusterLinks.Proofs.Pass.Undoing
import ClusterLinks.Proofs.Pass.Upkeep
import ClusterLinks.Proofs.ResourceId.Groups
import ClusterLinks.Proofs.Store.Brackets
import ClusterLinks.Proofs.Store.Failures
import ClusterLinks.Proofs.Store.Faults
import ClusterLinks.Proofs.Store.Patch
import ClusterLinks.Proofs.Store.Records
import ClusterLinks.Proofs.Store.Shelf
import ClusterLinks.Proofs.Text.Decimal
import ClusterLinks.Proofs.Timestamp.Calendar
import ClusterLinks.Proofs.Timestamp.Reading
import ClusterLinks.Rehearsal.Cloud
import ClusterLinks.Rehearsal.Memory
import ClusterLinks.Rehearsal.Report
import ClusterLinks.Rehearsal.Script
import ClusterLinks.ResourceId
import ClusterLinks.Settings
import ClusterLinks.Settings.CommandLine
import ClusterLinks.Store
import ClusterLinks.Store.Memory
import ClusterLinks.Store.Patch
import ClusterLinks.Store.Scope
import ClusterLinks.Surroundings
import ClusterLinks.Telemetry
import ClusterLinks.Text.Base64
import ClusterLinks.Text.Blank
import ClusterLinks.Text.CodeTable
import ClusterLinks.Text.Composition
import ClusterLinks.Text.Decimal
import ClusterLinks.Text.Direction
import ClusterLinks.Text.Hidden
import ClusterLinks.Text.Joining
import ClusterLinks.Text.Normal
import ClusterLinks.Text.Percent
import ClusterLinks.Text.Punycode
import ClusterLinks.Text.Quoted
import ClusterLinks.Text.Split
import ClusterLinks.Timestamp
