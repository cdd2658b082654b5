import DeviceRoster.Backend
import DeviceRoster.Binary64
import DeviceRoster.Binary64.Shortest
import DeviceRoster.Bridge
import DeviceRoster.Change
import DeviceRoster.Codec.Basic
import DeviceRoster.Codec.OfJson
import DeviceRoster.Codec.OfYaml
import DeviceRoster.Codec.Problem
import DeviceRoster.Codec.Record
import DeviceRoster.Command
import DeviceRoster.CommandLine
import DeviceRoster.Companion
import DeviceRoster.Config
import DeviceRoster.Files
import DeviceRoster.Fleet
import DeviceRoster.Identifier
import DeviceRoster.Json.Basic
import DeviceRoster.Json.Parser
import DeviceRoster.Json.Printer
import DeviceRoster.Json.Quoted
import DeviceRoster.Lifecycle
import DeviceRoster.Loading
import DeviceRoster.Manager
import DeviceRoster.Metrics
import DeviceRoster.Notification
import DeviceRoster.Notifier
import DeviceRoster.Number
import DeviceRoster.Registry
import DeviceRoster.Session
import DeviceRoster.SortedMap
import DeviceRoster.Target
import DeviceRoster.Text.Escaped
import DeviceRoster.Text.Hidden
import DeviceRoster.Timestamp
import DeviceRoster.Uuid
import DeviceRoster.Yaml.Mark
import DeviceRoster.Yaml.Node
import DeviceRoster.Yaml.Node.Assembly
import DeviceRoster.Yaml.Problem
import DeviceRoster.Yaml.Scalar
import DeviceRoster.Yaml.Token
import DeviceRoster.Yaml.Token.Block
import DeviceRoster.Yaml.Token.Plain
import DeviceRoster.Yaml.Token.Property
import DeviceRoster.Yaml.Token.Quoted
import DeviceRoster.Yaml.Token.Stream
import DeviceRoster.Yaml.Value
import DeviceRoster.Main
import DeviceRoster.Proofs.Course
import DeviceRoster.Proofs.Maps
import DeviceRoster.Proofs.Coherence
import DeviceRoster.Proofs.History
import DeviceRoster.Proofs.Mirror
import DeviceRoster.Proofs.Gate
import DeviceRoster.Proofs.Restart
import DeviceRoster.Proofs.Ledger
import DeviceRoster.Proofs.Wiring
import DeviceRoster.Proofs.Agreement
import DeviceRoster.Proofs.Rejection
import DeviceRoster.Proofs.Skipping
import DeviceRoster.Proofs.Lives
import DeviceRoster.Proofs.Listing
import DeviceRoster.Proofs.Discovery
import DeviceRoster.Proofs.Streams
import DeviceRoster.Proofs.Flows
import DeviceRoster.Proofs.Notifying
import DeviceRoster.Proofs.Sinks
import DeviceRoster.Proofs.Tallies
import DeviceRoster.Proofs.Schedules
import DeviceRoster.Proofs.Accounting
import DeviceRoster.Proofs.Performances
import DeviceRoster.Proofs.Shutdown
import DeviceRoster.Proofs.ByteOrder
import DeviceRoster.Proofs.Reading
import DeviceRoster.Proofs.Resolving
import DeviceRoster.Proofs.Bystanders
import DeviceRoster.Proofs.Moves
import DeviceRoster.Proofs.Unnoticed
import DeviceRoster.Proofs.Enrolling
import DeviceRoster.Proofs.Records
import DeviceRoster.Proofs.Enumeration
import DeviceRoster.Proofs.JsonText
import DeviceRoster.Proofs.Codecs
import DeviceRoster.Proofs.RoundTrips
import DeviceRoster.Proofs.Calendar
import DeviceRoster.Proofs.Rfc3339
import DeviceRoster.Proofs.ChangeLines
import DeviceRoster.Proofs.WholeNumbers
import DeviceRoster.Proofs.SampleLines
