import GaleraProxy.Api.Credentials
import GaleraProxy.Api.HealthReport
import GaleraProxy.Api.Message
import GaleraProxy.Api.Router
import GaleraProxy.Api.TrafficUpdate
import GaleraProxy.Backend.Basic
import GaleraProxy.Backend.Step
import GaleraProxy.Certificate.Authority
import GaleraProxy.Certificate.Der
import GaleraProxy.Certificate.Pem
import GaleraProxy.Channel
import GaleraProxy.Cli.Argument
import GaleraProxy.Cli.Command
import GaleraProxy.Cli.Ending
import GaleraProxy.Cli.FileTree
import GaleraProxy.Cli.Launch
import GaleraProxy.Cluster.Step
import GaleraProxy.Cluster.Switch
import GaleraProxy.Config.Language
import GaleraProxy.Config.Load
import GaleraProxy.Config.Model
import GaleraProxy.Config.Parse
import GaleraProxy.Config.Schema
import GaleraProxy.Config.Template
import GaleraProxy.Config.Validation
import GaleraProxy.Document.Content
import GaleraProxy.Document.Fault
import GaleraProxy.Document.Kind
import GaleraProxy.Document.Node
import GaleraProxy.Document.Record
import GaleraProxy.Error
import GaleraProxy.Event
import GaleraProxy.Host.Address
import GaleraProxy.Host.Basic
import GaleraProxy.Host.DomainName
import GaleraProxy.Host.Punycode
import GaleraProxy.Http.Authority
import GaleraProxy.Http.Exchange
import GaleraProxy.Http.Form
import GaleraProxy.Http.Status
import GaleraProxy.Http.Uri
import GaleraProxy.Json.Document
import GaleraProxy.Json.Error
import GaleraProxy.Json.Number
import GaleraProxy.Json.Parse
import GaleraProxy.Json.Text
import GaleraProxy.Json.Value
import GaleraProxy.Main
import GaleraProxy.Metrics
import GaleraProxy.Monitor.Agent
import GaleraProxy.Monitor.Audience
import GaleraProxy.Monitor.Basic
import GaleraProxy.Monitor.Election
import GaleraProxy.Monitor.Following
import GaleraProxy.Monitor.Reply
import GaleraProxy.Monitor.Run
import GaleraProxy.Monitor.Step
import GaleraProxy.Number.Binary64
import GaleraProxy.Number.Decimal
import GaleraProxy.Number.Shortest
import GaleraProxy.Proofs.Api.Access
import GaleraProxy.Proofs.Api.Credentials
import GaleraProxy.Proofs.Api.Login
import GaleraProxy.Proofs.Api.TrafficUpdate
import GaleraProxy.Proofs.Backend.Accounting
import GaleraProxy.Proofs.Backend.Barring
import GaleraProxy.Proofs.Backend.Consistency
import GaleraProxy.Proofs.Backend.Custody
import GaleraProxy.Proofs.Backend.Generations
import GaleraProxy.Proofs.Backend.Guests
import GaleraProxy.Proofs.Backend.HangingUp
import GaleraProxy.Proofs.Backend.Motion
import GaleraProxy.Proofs.Backend.Recording
import GaleraProxy.Proofs.Backend.Severing
import GaleraProxy.Proofs.Backend.StatusUrl
import GaleraProxy.Proofs.Backend.Sweeps
import GaleraProxy.Proofs.Basic
import GaleraProxy.Proofs.Channel
import GaleraProxy.Proofs.Cluster.Alone
import GaleraProxy.Proofs.Cluster.Order
import GaleraProxy.Proofs.Cluster.Toggling
import GaleraProxy.Proofs.Config.Checking
import GaleraProxy.Proofs.Config.Language
import GaleraProxy.Proofs.Config.Loading
import GaleraProxy.Proofs.Config.RoundTrip
import GaleraProxy.Proofs.Config.Rules
import GaleraProxy.Proofs.Document.Order
import GaleraProxy.Proofs.Document.Reading
import GaleraProxy.Proofs.Document.Record
import GaleraProxy.Proofs.Document.Spelling
import GaleraProxy.Proofs.Host.Address
import GaleraProxy.Proofs.Host.SocketAddress
import GaleraProxy.Proofs.Host.Valid
import GaleraProxy.Proofs.Http.Authority
import GaleraProxy.Proofs.Http.Url
import GaleraProxy.Proofs.Json.Grammar
import GaleraProxy.Proofs.Json.Number
import GaleraProxy.Proofs.Json.Reading
import GaleraProxy.Proofs.Json.Rendering
import GaleraProxy.Proofs.Json.Scanning
import GaleraProxy.Proofs.Json.Skipping
import GaleraProxy.Proofs.Json.Text
import GaleraProxy.Proofs.Monitor.Agreement
import GaleraProxy.Proofs.Monitor.Barrier
import GaleraProxy.Proofs.Monitor.Believing
import GaleraProxy.Proofs.Monitor.Changes
import GaleraProxy.Proofs.Monitor.Foremost
import GaleraProxy.Proofs.Monitor.Memory
import GaleraProxy.Proofs.Monitor.Operations
import GaleraProxy.Proofs.Monitor.Opposition
import GaleraProxy.Proofs.Monitor.Polling
import GaleraProxy.Proofs.Monitor.Publication
import GaleraProxy.Proofs.Monitor.Waterfall
import GaleraProxy.Proofs.Monitor.Winner
import GaleraProxy.Proofs.Runner.Answering
import GaleraProxy.Proofs.Runner.Change
import GaleraProxy.Proofs.Runner.Draining
import GaleraProxy.Proofs.Runner.Sessions
import GaleraProxy.Proofs.Runner.Undrained
import GaleraProxy.Proofs.Service.Admission
import GaleraProxy.Proofs.Service.Alone
import GaleraProxy.Proofs.Service.Calls
import GaleraProxy.Proofs.Service.Endings
import GaleraProxy.Proofs.Service.Isolation
import GaleraProxy.Proofs.Service.Lanes
import GaleraProxy.Proofs.Service.Learning
import GaleraProxy.Proofs.Service.Mirroring.Basic
import GaleraProxy.Proofs.Service.Mirroring.Clients
import GaleraProxy.Proofs.Service.Mirroring.Lanes
import GaleraProxy.Proofs.Service.Mirroring.Severs
import GaleraProxy.Proofs.Service.Mirroring.Steps
import GaleraProxy.Proofs.Service.Operations
import GaleraProxy.Proofs.Service.OwnSevers
import GaleraProxy.Proofs.Service.Progress
import GaleraProxy.Proofs.Service.Quietness
import GaleraProxy.Proofs.Service.Routing
import GaleraProxy.Proofs.Service.Sight
import GaleraProxy.Proofs.Service.Soundness
import GaleraProxy.Proofs.Service.Starting
import GaleraProxy.Proofs.Service.Timing
import GaleraProxy.Proofs.Service.Unseen
import GaleraProxy.Proofs.Session.Copying
import GaleraProxy.Proofs.Session.LifeCycle
import GaleraProxy.Proofs.Session.Membership
import GaleraProxy.Proofs.Session.Release
import GaleraProxy.Proofs.Session.Settling
import GaleraProxy.Proofs.Session.Stages
import GaleraProxy.Proofs.Session.Streams
import GaleraProxy.Proofs.Session.Turns
import GaleraProxy.Proofs.Status.Failovers
import GaleraProxy.Proofs.Text.Base64
import GaleraProxy.Proofs.Text.ByteOrder
import GaleraProxy.Proofs.Text.Register
import GaleraProxy.Proofs.Text.Trimming
import GaleraProxy.Proofs.Text.Utf8
import GaleraProxy.Runner.Basic
import GaleraProxy.Runner.Draining
import GaleraProxy.Runner.Serving
import GaleraProxy.Service.Basic
import GaleraProxy.Service.Deployment
import GaleraProxy.Service.Listen
import GaleraProxy.Service.LogLine
import GaleraProxy.Service.Run
import GaleraProxy.Service.Standing
import GaleraProxy.Service.Step
import GaleraProxy.Session.Bridge
import GaleraProxy.Session.Bridging
import GaleraProxy.Session.Call
import GaleraProxy.Session.Pipe
import GaleraProxy.Session.Registering
import GaleraProxy.Session.Registry
import GaleraProxy.Status.Logger
import GaleraProxy.Status.Report
import GaleraProxy.Steps
import GaleraProxy.Text.Base64
import GaleraProxy.Text.Percent
import GaleraProxy.Text.Quoted
import GaleraProxy.Text.Sha256
import GaleraProxy.Text.Utf8
import GaleraProxy.Time.Duration
import GaleraProxy.Time.Timestamp
import GaleraProxy.Toml.Document
import GaleraProxy.Toml.Number
import GaleraProxy.Toml.Table
import GaleraProxy.Toml.Text
import GaleraProxy.Toml.Value
import GaleraProxy.Unicode.Classes
import GaleraProxy.Unicode.Composition
import GaleraProxy.Unicode.Mapping
import GaleraProxy.Unicode.Printable
import GaleraProxy.Unicode.Table
import GaleraProxy.Version
import GaleraProxy.Yaml.Cursor
import GaleraProxy.Yaml.Document
import GaleraProxy.Yaml.Event
import GaleraProxy.Yaml.Scalar
import GaleraProxy.Yaml.Text
import GaleraProxy.Yaml.Token

