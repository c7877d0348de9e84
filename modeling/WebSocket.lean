import WebSocket.Bytes
import WebSocket.Client.Basic
import WebSocket.Client.Error
import WebSocket.Client.Incoming
import WebSocket.CommandLine.Basic
import WebSocket.CommandLine.Complaint
import WebSocket.CommandLine.Ending
import WebSocket.CommandLine.Options
import WebSocket.Digest.Sha1
import WebSocket.Dispatch.Backoff
import WebSocket.Dispatch.Error
import WebSocket.Dispatch.Handler
import WebSocket.Dispatch.Pool
import WebSocket.Dispatch.Race
import WebSocket.Echo
import WebSocket.Frame.Basic
import WebSocket.Frame.Cursor
import WebSocket.Frame.Parse
import WebSocket.Frame.Sequence
import WebSocket.Handshake
import WebSocket.Http.Field
import WebSocket.Http.Request
import WebSocket.Http.Response
import WebSocket.Http.Target
import WebSocket.Hub
import WebSocket.Loop.Basic
import WebSocket.Loop.Course
import WebSocket.Loop.StopFlag
import WebSocket.Main
import WebSocket.Message
import WebSocket.Metrics
import WebSocket.Net.Address
import WebSocket.Net.Listener
import WebSocket.Net.Tracker
import WebSocket.Notice
import WebSocket.Panic
import WebSocket.Policy
import WebSocket.ProtocolError
import WebSocket.Server.Basic
import WebSocket.Server.Exchange
import WebSocket.Server.Race
import WebSocket.Server.Run
import WebSocket.Server.Threads
import WebSocket.ServerError
import WebSocket.Session.Basic
import WebSocket.Session.Buffer
import WebSocket.Session.Contention
import WebSocket.Session.Error
import WebSocket.Session.Handle
import WebSocket.Session.Inbox
import WebSocket.Session.Outbox
import WebSocket.Session.Service
import WebSocket.Session.Socket
import WebSocket.Settings.Basic
import WebSocket.Settings.Check
import WebSocket.Settings.Error
import WebSocket.Settings.Read
import WebSocket.Settings.Write
import WebSocket.Text.Base64
import WebSocket.Text.Blank
import WebSocket.Text.Caseless
import WebSocket.Text.CharRange
import WebSocket.Text.Cut
import WebSocket.Text.Decimal
import WebSocket.Text.ExtendingMark
import WebSocket.Text.Form
import WebSocket.Text.Lines
import WebSocket.Text.Literal
import WebSocket.Text.Printable
import WebSocket.Text.Utf8
import WebSocket.Toml.Document
import WebSocket.Toml.Moment
import WebSocket.Toml.Node
import WebSocket.Toml.Number
import WebSocket.Toml.Quoted
import WebSocket.Toml.Reader
import WebSocket.Proofs.Frame.Incremental
import WebSocket.Proofs.Http.Incremental
import WebSocket.Proofs.Policy.Boundary
import WebSocket.Proofs.Session.Units
import WebSocket.Proofs.Session.Receiving
import WebSocket.Proofs.Session.Chunking
import WebSocket.Proofs.Http.Body
import WebSocket.Proofs.Message.Assembly
import WebSocket.Proofs.Policy.Decode
import WebSocket.Proofs.Frame.Header
import WebSocket.Proofs.Frame.Written
import WebSocket.Proofs.Frame.RoundTrip
import WebSocket.Proofs.Policy.Fragments
import WebSocket.Proofs.Policy.Grammar
import WebSocket.Proofs.Policy.Limit
import WebSocket.Proofs.Session.Sending
import WebSocket.Proofs.Session.Handling
import WebSocket.Proofs.Session.Calls
import WebSocket.Proofs.Session.Upgrade
import WebSocket.Proofs.Session.Renaming
import WebSocket.Proofs.Hub.Happenings
import WebSocket.Proofs.Hub.View
import WebSocket.Proofs.Hub.Isolation
import WebSocket.Proofs.Dispatch.Conservation
import WebSocket.Proofs.Server.Accounting
import WebSocket.Proofs.Session.Pending
import WebSocket.Proofs.Hub.Tally
import WebSocket.Proofs.Hub.Interplay
import WebSocket.Proofs.Hub.Undisturbed
import WebSocket.Proofs.Hub.Standing
import WebSocket.Proofs.Hub.Balance
import WebSocket.Proofs.Hub.Emptied
import WebSocket.Proofs.Hub.Census
import WebSocket.Proofs.Dispatch.AtRest
import WebSocket.Proofs.Server.Stages
import WebSocket.Proofs.Server.Overlap
import WebSocket.Proofs.Server.Lifecycle
import WebSocket.Proofs.Text.Cutting
import WebSocket.Proofs.Text.Decoding
import WebSocket.Proofs.Http.RoundTrip
import WebSocket.Proofs.Client.Reading
import WebSocket.Proofs.Client.Agreement
import WebSocket.Proofs.Client.Stream
import WebSocket.Proofs.Http.Fields
import WebSocket.Proofs.Frame.Canonical
import WebSocket.Proofs.Session.SoftBound
import WebSocket.Proofs.Session.Bookkeeping
import WebSocket.Proofs.Session.Reads
import WebSocket.Proofs.Http.Targets
import WebSocket.Proofs.Dispatch.Counting
import WebSocket.Proofs.Hub.Replies
import WebSocket.Proofs.Dispatch.Crew
import WebSocket.Proofs.Loop.Surviving
import WebSocket.Proofs.Session.Departures
import WebSocket.Proofs.Session.Metering
import WebSocket.Proofs.Client.AnswerLines
import WebSocket.Proofs.Http.DotSegments
import WebSocket.Proofs.Session.BoundedQueue
import WebSocket.Proofs.Http.FieldLines
import WebSocket.Proofs.Dispatch.Abandoning
import WebSocket.Proofs.Frame.Words
