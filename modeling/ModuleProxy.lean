import ModuleProxy.Address
import ModuleProxy.Bytes
import ModuleProxy.Channel.Basic
import ModuleProxy.Channel.Memory
import ModuleProxy.Channel.Script
import ModuleProxy.Cli.Action
import ModuleProxy.Cli.Arguments
import ModuleProxy.Cli.Command
import ModuleProxy.Cli.Desk
import ModuleProxy.Cli.ExitCode
import ModuleProxy.Cli.FieldTable
import ModuleProxy.Cli.Log
import ModuleProxy.Cli.Option
import ModuleProxy.Cli.Report
import ModuleProxy.Cli.Run
import ModuleProxy.Cli.UsageError
import ModuleProxy.Config
import ModuleProxy.Control.Create
import ModuleProxy.Control.Kind
import ModuleProxy.Control.Message
import ModuleProxy.Control.Uri
import ModuleProxy.EndpointError
import ModuleProxy.Fifo
import ModuleProxy.Files
import ModuleProxy.Foreign
import ModuleProxy.FormatError
import ModuleProxy.Frame.Body
import ModuleProxy.Frame.Incremental
import ModuleProxy.Frame.Kind
import ModuleProxy.Frame.Reader
import ModuleProxy.Frame.Script
import ModuleProxy.Frame.Split
import ModuleProxy.Frame.StreamError
import ModuleProxy.Frame.Writer
import ModuleProxy.Gateway
import ModuleProxy.Host.Basic
import ModuleProxy.Host.Registry
import ModuleProxy.IoError
import ModuleProxy.Json.Parser
import ModuleProxy.Json.Token
import ModuleProxy.Json.Value
import ModuleProxy.Message.Basic
import ModuleProxy.Message.Format
import ModuleProxy.Message.Properties
import ModuleProxy.Module.Basic
import ModuleProxy.Module.Catalog
import ModuleProxy.Module.Echo
import ModuleProxy.Module.Journal
import ModuleProxy.Module.Logger
import ModuleProxy.Module.Recorder
import ModuleProxy.ProxyError
import ModuleProxy.Sandbox
import ModuleProxy.Socket.Basic
import ModuleProxy.Socket.Channel
import ModuleProxy.Socket.System
import ModuleProxy.Text.CodeSet
import ModuleProxy.Text.Columns
import ModuleProxy.Text.Combining
import ModuleProxy.Text.Hex
import ModuleProxy.Text.Ligature
import ModuleProxy.Text.Path
import ModuleProxy.Text.Pictograph
import ModuleProxy.Text.PictureSequence
import ModuleProxy.Text.Printable
import ModuleProxy.Text.Quoted
import ModuleProxy.Text.Utf8
import ModuleProxy.Text.Width
import ModuleProxy.Text.Wrap
import ModuleProxy.Main
import ModuleProxy.Proofs.Success
import ModuleProxy.Proofs.Field
import ModuleProxy.Proofs.Lookup
import ModuleProxy.Proofs.Text.Terminator
import ModuleProxy.Proofs.Upsert
import ModuleProxy.Proofs.Message.OrderedMap
import ModuleProxy.Proofs.Message.Grammar
import ModuleProxy.Proofs.Message.RoundTrip
import ModuleProxy.Proofs.Frame.Pieces
import ModuleProxy.Proofs.Control.RoundTrip
import ModuleProxy.Proofs.Gateway.Consistency
import ModuleProxy.Proofs.Gateway.Observed
import ModuleProxy.Proofs.Gateway.Sessions
import ModuleProxy.Proofs.Gateway.Moves
import ModuleProxy.Proofs.Gateway.Operations
import ModuleProxy.Proofs.Gateway.Steps
import ModuleProxy.Proofs.Gateway.Attachment
import ModuleProxy.Proofs.Gateway.Sends
import ModuleProxy.Proofs.Gateway.Replies
import ModuleProxy.Proofs.Module.Confined
import ModuleProxy.Proofs.Socket.Channel
import ModuleProxy.Proofs.Channel.Memory
import ModuleProxy.Proofs.Channel.Passing
import ModuleProxy.Proofs.Channel.Ages
import ModuleProxy.Proofs.Channel.Closing
import ModuleProxy.Proofs.Gateway.Brokers
import ModuleProxy.Proofs.Channel.Ends
import ModuleProxy.Proofs.Gateway.Ledgers
import ModuleProxy.Proofs.Gateway.Served
import ModuleProxy.Proofs.Gateway.Accounts
import ModuleProxy.Proofs.Gateway.Rounds
import ModuleProxy.Proofs.Gateway.Bookkeeping
import ModuleProxy.Proofs.Gateway.Delivery
import ModuleProxy.Proofs.Control.Records
import ModuleProxy.Proofs.Control.Grammar
import ModuleProxy.Proofs.Frame.Exchange
import ModuleProxy.Proofs.Socket.Spares
import ModuleProxy.Proofs.Gateway.Beside
import ModuleProxy.Proofs.Gateway.Hangups
import ModuleProxy.Proofs.Socket.Scenes
import ModuleProxy.Proofs.Socket.Fates
import ModuleProxy.Proofs.Socket.Outbox
import ModuleProxy.Proofs.Socket.Acceptance
import ModuleProxy.Proofs.Foreign.Outcome
import ModuleProxy.Proofs.Foreign.LastError
import ModuleProxy.Proofs.Foreign.Arguments
import ModuleProxy.Proofs.Foreign.Supply
import ModuleProxy.Proofs.Foreign.Blame
import ModuleProxy.Proofs.Foreign.Agreement
import ModuleProxy.Proofs.Host.Registry
import ModuleProxy.Proofs.Host.Erasure
import ModuleProxy.Proofs.Host.Watched
import ModuleProxy.Proofs.Host.Moves
import ModuleProxy.Proofs.Host.Lives
import ModuleProxy.Proofs.Host.Instances
import ModuleProxy.Proofs.Frame.Codecs
import ModuleProxy.Proofs.Frame.Feeding
import ModuleProxy.Proofs.Channel.Traffic
import ModuleProxy.Proofs.Channel.Tallies
import ModuleProxy.Proofs.Host.Granted
import ModuleProxy.Proofs.Host.Grants
import ModuleProxy.Proofs.Socket.Traces
import ModuleProxy.Proofs.Socket.Visits
import ModuleProxy.Proofs.Socket.Advances
import ModuleProxy.Proofs.Socket.Uses
import ModuleProxy.Proofs.Message.Canonical
import ModuleProxy.Proofs.Gateway.Requests
import ModuleProxy.Proofs.Gateway.Takings
import ModuleProxy.Proofs.Gateway.Floods
import ModuleProxy.Proofs.Text.Hex
import ModuleProxy.Proofs.Text.Path
import ModuleProxy.Proofs.Files
import ModuleProxy.Proofs.Cli.Running
import ModuleProxy.Proofs.Cli.Writing
import ModuleProxy.Proofs.Cli.Pipeline
import ModuleProxy.Proofs.Control.Readers
import ModuleProxy.Proofs.Frame.Faults
import ModuleProxy.Proofs.Frame.ReaderRuns
import ModuleProxy.Proofs.Frame.Retrying
import ModuleProxy.Proofs.Message.Equality
import ModuleProxy.Proofs.Message.Insertion
import ModuleProxy.Proofs.Socket.Counted
import ModuleProxy.Proofs.Socket.Accounting
import ModuleProxy.Proofs.Text.HexGrammar
import ModuleProxy.Proofs.Machine.Basic
import ModuleProxy.Proofs.Machine.Message
import ModuleProxy.Proofs.Machine.Control
import ModuleProxy.Proofs.Machine.Frame
import ModuleProxy.Proofs.Socket.Shown
import ModuleProxy.Proofs.Socket.Street
import ModuleProxy.Proofs.Socket.Flowing
import ModuleProxy.Proofs.Socket.Paced
import ModuleProxy.Proofs.Socket.Receiving
import ModuleProxy.Proofs.Socket.Answers
import ModuleProxy.Proofs.Socket.Attending
import ModuleProxy.Proofs.Socket.Hearing
import ModuleProxy.Proofs.Socket.Reception
import ModuleProxy.Proofs.Host.FreeIds
import ModuleProxy.Proofs.Host.Numbering
import ModuleProxy.Proofs.Foreign.Mirrors
import ModuleProxy.Proofs.Foreign.Handles
import ModuleProxy.Proofs.Socket.Places
import ModuleProxy.Proofs.Socket.Binding
import ModuleProxy.Proofs.Socket.Paths
import ModuleProxy.Proofs.Address
import ModuleProxy.Proofs.Config
import ModuleProxy.Proofs.Json.Spelling
import ModuleProxy.Proofs.Json.RoundTrip
import ModuleProxy.Proofs.Module.LoggerLines
import ModuleProxy.Proofs.Channel.Acts
import ModuleProxy.Proofs.Channel.Holders
import ModuleProxy.Proofs.Channel.Opening
import ModuleProxy.Proofs.Channel.Parking
import ModuleProxy.Proofs.Channel.FarEnds
import ModuleProxy.Proofs.Socket.Still
import ModuleProxy.Proofs.Socket.Rests
import ModuleProxy.Proofs.Socket.Oversized
