import SessionGateway.Bytes.Base64Url
import SessionGateway.Bytes.Hex
import SessionGateway.Bytes.Hmac
import SessionGateway.Bytes.Sha256
import SessionGateway.Chain.Audit
import SessionGateway.Chain.Authentication
import SessionGateway.Chain.DataEvent
import SessionGateway.Chain.Extension
import SessionGateway.Chain.Validation
import SessionGateway.Clock.Calendar
import SessionGateway.Clock.Instant
import SessionGateway.Clock.Rfc3339
import SessionGateway.Clock.Span
import SessionGateway.Clock.Timer
import SessionGateway.CommandLine.Arguments
import SessionGateway.CommandLine.Failure
import SessionGateway.CommandLine.Machine
import SessionGateway.CommandLine.Run
import SessionGateway.CommandLine.Usage
import SessionGateway.FileError
import SessionGateway.Gateway.Basic
import SessionGateway.Gateway.Error
import SessionGateway.Identity.Directory
import SessionGateway.Identity.Permission
import SessionGateway.Identity.Principal
import SessionGateway.Json.Attempt
import SessionGateway.Json.Basic
import SessionGateway.Json.Reader
import SessionGateway.Json.Record
import SessionGateway.Json.Wanted
import SessionGateway.Main
import SessionGateway.Persistence.Backend
import SessionGateway.Persistence.SessionStore
import SessionGateway.Persistence.WriteBehind
import SessionGateway.Persistence.WriteQueue
import SessionGateway.Plugin.Capability
import SessionGateway.Plugin.EntryPoint
import SessionGateway.Plugin.Loader
import SessionGateway.Plugin.Message
import SessionGateway.Plugin.ModulePath
import SessionGateway.Plugin.Outcome
import SessionGateway.Plugin.Registry
import SessionGateway.Plugin.Stop
import SessionGateway.Report
import SessionGateway.Report.Table
import SessionGateway.Request
import SessionGateway.Scenario.Answer
import SessionGateway.Scenario.Backend
import SessionGateway.Scenario.CallLog
import SessionGateway.Scenario.Disk
import SessionGateway.Scenario.Failure
import SessionGateway.Scenario.Fault
import SessionGateway.Scenario.Naming
import SessionGateway.Scenario.Opener
import SessionGateway.Scenario.Reading
import SessionGateway.Scenario.Script
import SessionGateway.Scenario.Terminal
import SessionGateway.Session.Basic
import SessionGateway.Session.Cache
import SessionGateway.Session.Cluster
import SessionGateway.Session.Error
import SessionGateway.Session.Manager
import SessionGateway.Session.Record
import SessionGateway.Session.RecordBytes
import SessionGateway.Settings.Basic
import SessionGateway.Settings.Document
import SessionGateway.Settings.Environment
import SessionGateway.Storage.Database
import SessionGateway.Storage.Error
import SessionGateway.Storage.TreeText
import SessionGateway.Text.Blank
import SessionGateway.Text.CaseTable
import SessionGateway.Text.CharRange
import SessionGateway.Text.Decimal
import SessionGateway.Text.EmojiTable
import SessionGateway.Text.Ligature
import SessionGateway.Text.Lowercase
import SessionGateway.Text.Numeral
import SessionGateway.Text.Pieces
import SessionGateway.Text.PrintableTable
import SessionGateway.Text.Quoted
import SessionGateway.Text.Width
import SessionGateway.Text.WidthTable
import SessionGateway.Token.Claims
import SessionGateway.Token.Header
import SessionGateway.Token.RegisteredClaims
import SessionGateway.Token.Signed
import SessionGateway.Uuid
import SessionGateway.Proofs.Clock.Calendar
import SessionGateway.Proofs.Clock.Instant
import SessionGateway.Proofs.Clock.Rfc3339
import SessionGateway.Proofs.Persistence.SessionStore
import SessionGateway.Proofs.Persistence.Attempt
import SessionGateway.Proofs.Persistence.Journal
import SessionGateway.Proofs.Persistence.Round
import SessionGateway.Proofs.Persistence.Worker
import SessionGateway.Proofs.Persistence.Enqueue
import SessionGateway.Proofs.Persistence.Ledger
import SessionGateway.Proofs.Persistence.Traffic
import SessionGateway.Proofs.Persistence.Depth
import SessionGateway.Proofs.Persistence.Tried
import SessionGateway.Proofs.Persistence.Flush
import SessionGateway.Proofs.Session.RecordBytes
import SessionGateway.Proofs.Session.Cache
import SessionGateway.Proofs.Session.Entry
import SessionGateway.Proofs.Session.Manager
import SessionGateway.Proofs.Session.Reload
import SessionGateway.Proofs.Session.Stage
import SessionGateway.Proofs.Session.Run
import SessionGateway.Proofs.Session.Resolution
import SessionGateway.Proofs.Session.Convergence
import SessionGateway.Proofs.Session.Invalidation
import SessionGateway.Proofs.Session.Quiet
import SessionGateway.Proofs.Session.Revival
import SessionGateway.Proofs.Session.Tombstone
import SessionGateway.Proofs.Session.Fleet
import SessionGateway.Proofs.Gateway.Login
import SessionGateway.Proofs.Gateway.Hook
import SessionGateway.Proofs.Text.Decimal
import SessionGateway.Proofs.Plugin.Registry
import SessionGateway.Proofs.Plugin.Scan
import SessionGateway.Proofs.Chain.Validation
import SessionGateway.Proofs.Plugin.Stop
import SessionGateway.Proofs.Chain.Extension
import SessionGateway.Proofs.Plugin.LoadOrder
import SessionGateway.Proofs.Persistence.StoreHistory
import SessionGateway.Proofs.Session.Footprint
import SessionGateway.Proofs.Session.Repetition
import SessionGateway.Proofs.Session.UserSessions
import SessionGateway.Proofs.Persistence.Visit
import SessionGateway.Proofs.Persistence.Carried
import SessionGateway.Proofs.Session.Throughout
import SessionGateway.Proofs.Session.Sweep
import SessionGateway.Proofs.Gateway.Served
import SessionGateway.Proofs.Gateway.Logout
import SessionGateway.Proofs.Json.Utf8
import SessionGateway.Proofs.Json.Scalar
import SessionGateway.Proofs.Json.Members
import SessionGateway.Proofs.Token.Roundtrip
import SessionGateway.Proofs.Text.Pieces
import SessionGateway.Proofs.Plugin.Claim
import SessionGateway.Proofs.Plugin.Holding
import SessionGateway.Proofs.Plugin.Account
import SessionGateway.Proofs.Plugin.Reachable
import SessionGateway.Proofs.Chain.Consultation
import SessionGateway.Proofs.Identity.Directory
import SessionGateway.Proofs.Plugin.Listing
import SessionGateway.Proofs.Chain.FanOut
import SessionGateway.Proofs.Chain.Authentication
import SessionGateway.Proofs.Gateway.Recognition
import SessionGateway.Proofs.Request.Header
import SessionGateway.Proofs.Request.Path
import SessionGateway.Proofs.Settings.Check
import SessionGateway.Proofs.Settings.Overlay
import SessionGateway.Proofs.Persistence.Backlog
import SessionGateway.Proofs.Persistence.Progress
import SessionGateway.Proofs.Map
import SessionGateway.Proofs.Json.Document
import SessionGateway.Proofs.Json.Record
import SessionGateway.Proofs.Json.Roundtrip
