import ChatClient.Cache.Basic
import ChatClient.Cache.Operation
import ChatClient.Client.Basic
import ChatClient.Config.Basic
import ChatClient.Config.Environment
import ChatClient.Config.Logging
import ChatClient.Diagnostic
import ChatClient.Dispatch.Basic
import ChatClient.Dispatch.Effect
import ChatClient.Dispatch.Observer
import ChatClient.Entity.Attachment
import ChatClient.Entity.Channel
import ChatClient.Entity.Emoji
import ChatClient.Entity.Member
import ChatClient.Entity.MemberId
import ChatClient.Entity.Message
import ChatClient.Entity.Role
import ChatClient.Entity.Server
import ChatClient.Entity.Snapshot
import ChatClient.Entity.User
import ChatClient.Entity.Webhook
import ChatClient.Event.Basic
import ChatClient.Event.Classify
import ChatClient.Event.Content
import ChatClient.Event.Decoding
import ChatClient.Event.Kind
import ChatClient.Event.Payload
import ChatClient.Event.Update
import ChatClient.Gateway.Basic
import ChatClient.Gateway.Heartbeat
import ChatClient.Gateway.Message
import ChatClient.Gateway.Outbox
import ChatClient.Gateway.Pulse
import ChatClient.Gateway.Shared
import ChatClient.Gateway.State
import ChatClient.Gateway.Step
import ChatClient.Http.Client
import ChatClient.Http.Credentials
import ChatClient.Http.Error
import ChatClient.Http.Exchange
import ChatClient.Http.Header
import ChatClient.Http.HeaderTable
import ChatClient.Json.Basic
import ChatClient.Json.Document
import ChatClient.Json.Double
import ChatClient.Json.Printer
import ChatClient.Proofs.Cache.CurrentUser
import ChatClient.Proofs.Cache.Departure
import ChatClient.Proofs.Cache.Effect
import ChatClient.Proofs.Cache.Independence
import ChatClient.Proofs.Cache.Keys
import ChatClient.Proofs.Cache.Listing
import ChatClient.Proofs.Cache.Order
import ChatClient.Proofs.Cache.Outcome
import ChatClient.Proofs.Cache.Ranks
import ChatClient.Proofs.Cache.Reach
import ChatClient.Proofs.Cache.Redelivery
import ChatClient.Proofs.Cache.Resync
import ChatClient.Proofs.Cache.Table
import ChatClient.Proofs.Config.Environment
import ChatClient.Proofs.Dispatch.Leaves
import ChatClient.Proofs.Dispatch.Miss
import ChatClient.Proofs.Dispatch.Notify
import ChatClient.Proofs.Entity.Fields
import ChatClient.Proofs.Entity.MemberId
import ChatClient.Proofs.Entity.Reactions
import ChatClient.Proofs.Entity.Sequence
import ChatClient.Proofs.Entity.Slot
import ChatClient.Proofs.Entity.Twice
import ChatClient.Proofs.Event.Bulk
import ChatClient.Proofs.Event.Classify
import ChatClient.Proofs.Event.Cleared
import ChatClient.Proofs.Event.Faults
import ChatClient.Proofs.Event.RawUpdate
import ChatClient.Proofs.Event.Reports
import ChatClient.Proofs.Event.Skipped
import ChatClient.Proofs.Event.Update
import ChatClient.Proofs.Gateway.Count
import ChatClient.Proofs.Gateway.Delivery
import ChatClient.Proofs.Gateway.Echo
import ChatClient.Proofs.Gateway.HeartbeatStep
import ChatClient.Proofs.Gateway.Lifecycle
import ChatClient.Proofs.Gateway.Message
import ChatClient.Proofs.Gateway.Moves
import ChatClient.Proofs.Gateway.OrderedMoves
import ChatClient.Proofs.Gateway.Outbox
import ChatClient.Proofs.Gateway.Overdue
import ChatClient.Proofs.Gateway.Path
import ChatClient.Proofs.Gateway.ReportIndependence
import ChatClient.Proofs.Gateway.Rhythm
import ChatClient.Proofs.Gateway.SessionIndependence
import ChatClient.Proofs.Gateway.Solicited
import ChatClient.Proofs.Gateway.Step
import ChatClient.Proofs.Gateway.TimeShift
import ChatClient.Proofs.Gateway.Traffic
import ChatClient.Proofs.Gateway.UndecodedFrames
import ChatClient.Proofs.Gateway.Uptime
import ChatClient.Proofs.Gateway.Watch
import ChatClient.Proofs.History
import ChatClient.Proofs.Http.Calls
import ChatClient.Proofs.Http.Destination
import ChatClient.Proofs.Http.Excerpt
import ChatClient.Proofs.Http.Relative
import ChatClient.Proofs.Http.Settings
import ChatClient.Proofs.Http.Signing
import ChatClient.Proofs.Json.Members
import ChatClient.Proofs.Json.Printed
import ChatClient.Proofs.Json.Tokens
import ChatClient.Proofs.RateLimit.Headers
import ChatClient.Proofs.RateLimit.Isolation
import ChatClient.Proofs.RateLimit.Quota
import ChatClient.Proofs.Rest.Address
import ChatClient.Proofs.Rest.Validation
import ChatClient.Proofs.Text.Cut
import ChatClient.Proofs.Text.Decimal
import ChatClient.Proofs.Text.Separator
import ChatClient.Proofs.Text.Utf8
import ChatClient.Proofs.Text.Word
import ChatClient.Proofs.Time.Timestamp
import ChatClient.Proofs.Url.Below
import ChatClient.Proofs.Url.Hosted
import ChatClient.Proofs.Url.Path
import ChatClient.Proofs.Url.Percent
import ChatClient.Proofs.Url.Reread
import ChatClient.Proofs.Url.Segments
import ChatClient.Proofs.Url.Settled
import ChatClient.Proofs.Url.Spelling
import ChatClient.Proofs.Url.Stem
import ChatClient.Proofs.Url.Written
import ChatClient.Proofs.Wire.Faithful
import ChatClient.Proofs.Wire.Types
import ChatClient.RateLimit.Bucket
import ChatClient.RateLimit.Limiter
import ChatClient.RateLimit.Sweeper
import ChatClient.Rest.Call
import ChatClient.Rest.Endpoint
import ChatClient.Rest.Message
import ChatClient.Table
import ChatClient.Text.Blank
import ChatClient.Text.CodeTable
import ChatClient.Text.Composition
import ChatClient.Text.Decimal
import ChatClient.Text.Direction
import ChatClient.Text.Hexadecimal
import ChatClient.Text.Joining
import ChatClient.Text.Mark
import ChatClient.Text.Quoted
import ChatClient.Text.Split
import ChatClient.Text.Unexplained
import ChatClient.Text.Unseen
import ChatClient.Text.Utf8
import ChatClient.Time.Calendar
import ChatClient.Time.Duration
import ChatClient.Time.Ticker
import ChatClient.Time.Timestamp
import ChatClient.Update.Change
import ChatClient.Update.ClearName
import ChatClient.Update.Envelope
import ChatClient.Url.Address
import ChatClient.Url.Basic
import ChatClient.Url.Domain
import ChatClient.Url.Folding
import ChatClient.Url.Host
import ChatClient.Url.Label
import ChatClient.Url.Parser
import ChatClient.Url.Path
import ChatClient.Url.Percent
import ChatClient.Url.Punycode
import ChatClient.Wire.Basic
import ChatClient.Wire.Record
import ChatClient.Wire.Variant
