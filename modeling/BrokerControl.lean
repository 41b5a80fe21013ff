import BrokerControl.Access.AdaptorId
import BrokerControl.Access.Edit
import BrokerControl.Access.Error
import BrokerControl.Access.Grant
import BrokerControl.Access.RoutingKey
import BrokerControl.Access.Wire
import BrokerControl.Broker.Address
import BrokerControl.Broker.Call
import BrokerControl.Broker.Error
import BrokerControl.Broker.Resource
import BrokerControl.Broker.State
import BrokerControl.Broker.Wire
import BrokerControl.CommandLine.Arguments
import BrokerControl.CommandLine.Program
import BrokerControl.Config.Basic
import BrokerControl.Config.Environment
import BrokerControl.Config.Overlay
import BrokerControl.Config.Startup
import BrokerControl.Control.Adaptors
import BrokerControl.Control.Callbacks
import BrokerControl.Control.Failure
import BrokerControl.Control.Heartbeats
import BrokerControl.Control.Metrics
import BrokerControl.Control.Notification
import BrokerControl.Control.Operation
import BrokerControl.Control.Password
import BrokerControl.Control.Payload
import BrokerControl.Control.Plan
import BrokerControl.Control.Rehearsal
import BrokerControl.Control.Saga
import BrokerControl.Control.Settings
import BrokerControl.Control.Streaming
import BrokerControl.Control.Subscription
import BrokerControl.Control.Topology
import BrokerControl.Control.Trial
import BrokerControl.Control.Users
import BrokerControl.Control.Wire
import BrokerControl.Control.World
import BrokerControl.Data.Directory
import BrokerControl.Digest.Sha1
import BrokerControl.Digest.Sha256
import BrokerControl.Domain.Label
import BrokerControl.Domain.Mapping
import BrokerControl.Domain.Name
import BrokerControl.Domain.Punycode
import BrokerControl.Json.Basic
import BrokerControl.Json.Printer
import BrokerControl.Json.Reader
import BrokerControl.Json.Wire
import BrokerControl.Main
import BrokerControl.Management.Client
import BrokerControl.Management.Host
import BrokerControl.Management.Message
import BrokerControl.Management.Request
import BrokerControl.Management.Session
import BrokerControl.Management.Url
import BrokerControl.Registry.Call
import BrokerControl.Registry.State
import BrokerControl.Registry.Wire
import BrokerControl.Text.Base64
import BrokerControl.Text.Blank
import BrokerControl.Text.Hex
import BrokerControl.Text.Integer
import BrokerControl.Text.Occurs
import BrokerControl.Text.Percent
import BrokerControl.Text.Split
import BrokerControl.Time.Date
import BrokerControl.Time.Timestamp
import BrokerControl.Unicode.CombiningClass
import BrokerControl.Unicode.Composed
import BrokerControl.Unicode.Decomposition
import BrokerControl.Unicode.Direction
import BrokerControl.Unicode.Joining
import BrokerControl.Unicode.Mark
import BrokerControl.Unicode.Table
import BrokerControl.Yaml.Cursor
import BrokerControl.Yaml.Node
import BrokerControl.Yaml.Scalar
import BrokerControl.Yaml.Token
import BrokerControl.Yaml.Value
import BrokerControl.Proofs.Access.Grant
import BrokerControl.Proofs.Broker.Response
import BrokerControl.Proofs.Broker.Topology
import BrokerControl.Proofs.Broker.WellFormed
import BrokerControl.Proofs.Control.Adaptors
import BrokerControl.Proofs.Control.Announcements
import BrokerControl.Proofs.Control.CallbackRuns
import BrokerControl.Proofs.Control.Callbacks
import BrokerControl.Proofs.Control.Compensation
import BrokerControl.Proofs.Control.ConcurrentEdits
import BrokerControl.Proofs.Control.Creations
import BrokerControl.Proofs.Control.Custody
import BrokerControl.Proofs.Control.Execution
import BrokerControl.Proofs.Control.Footprint
import BrokerControl.Proofs.Control.Frame
import BrokerControl.Proofs.Control.Interleaving
import BrokerControl.Proofs.Control.Ownership
import BrokerControl.Proofs.Control.Readers
import BrokerControl.Proofs.Control.Rejections
import BrokerControl.Proofs.Control.SystemResources
import BrokerControl.Proofs.Control.Rights
import BrokerControl.Proofs.Control.Runs
import BrokerControl.Proofs.Control.Streaming
import BrokerControl.Proofs.Control.StreamingRuns
import BrokerControl.Proofs.Control.Subscription
import BrokerControl.Proofs.Control.Topology
import BrokerControl.Proofs.Control.Bootstrap
import BrokerControl.Proofs.Control.Users
import BrokerControl.Proofs.Data.Additions
import BrokerControl.Proofs.Json.ReadBack
import BrokerControl.Proofs.Registry.Response
import BrokerControl.Proofs.Control.SubscriptionId
import BrokerControl.Proofs.Management.Permissions
import BrokerControl.Proofs.Control.Credentials
import BrokerControl.Proofs.Control.FirstUse
import BrokerControl.Proofs.Control.Deletions
import BrokerControl.Proofs.Control.Tenants
import BrokerControl.Proofs.Control.Discretion
import BrokerControl.Proofs.Control.Disclosure
import BrokerControl.Proofs.Control.Outcomes
import BrokerControl.Proofs.Text.Percent
import BrokerControl.Proofs.Management.Paths
import BrokerControl.Proofs.Management.Bindings
import BrokerControl.Proofs.Time.Timestamp
import BrokerControl.Proofs.Json.Stable
import BrokerControl.Proofs.Control.WireTypes
import BrokerControl.Proofs.Text.Split
import BrokerControl.Proofs.Access.Pattern
import BrokerControl.Proofs.Access.History
import BrokerControl.Proofs.Access.RoutingKey
import BrokerControl.Proofs.Broker.Routes
import BrokerControl.Proofs.Broker.Listings
import BrokerControl.Proofs.Control.Heartbeats
import BrokerControl.Proofs.Control.Trial
import BrokerControl.Proofs.Control.Counters
