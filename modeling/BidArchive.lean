import BidArchive.Archive.Bucket
import BidArchive.Archive.Delimited
import BidArchive.Archive.Files
import BidArchive.Archive.Tree
import BidArchive.Beacon.Client
import BidArchive.Beacon.Duties
import BidArchive.Beacon.Message
import BidArchive.Beacon.Node
import BidArchive.Bid.Basic
import BidArchive.Bid.Ledger
import BidArchive.Bid.Recorder
import BidArchive.Bid.Sink
import BidArchive.Bid.Source
import BidArchive.Chain.Epoch
import BidArchive.Chain.Slot
import BidArchive.Collector.Basic
import BidArchive.Collector.Inbox
import BidArchive.CommandLine.Options
import BidArchive.CommandLine.Start
import BidArchive.Feed.Delivery
import BidArchive.Feed.Follower
import BidArchive.Feed.Forward
import BidArchive.Feed.Heads
import BidArchive.Feed.Intake
import BidArchive.Feed.KnownErrors
import BidArchive.Feed.Polling
import BidArchive.Feed.Retry
import BidArchive.Feed.Sleep
import BidArchive.Feed.TopBid
import BidArchive.Http.Charset
import BidArchive.Http.EventStream
import BidArchive.Http.Reply
import BidArchive.Http.Status
import BidArchive.Json.Codec
import BidArchive.Json.Decode
import BidArchive.Json.Envelope
import BidArchive.Json.Event
import BidArchive.Json.Node
import BidArchive.Json.Number
import BidArchive.Main
import BidArchive.Notice
import BidArchive.Number.Binary64
import BidArchive.Number.Decimal
import BidArchive.Number.Wide
import BidArchive.Number.Word
import BidArchive.Proofs.Archive.Contents
import BidArchive.Proofs.Archive.Delimited
import BidArchive.Proofs.Archive.Operations
import BidArchive.Proofs.Archive.Pairs
import BidArchive.Proofs.Archive.Place
import BidArchive.Proofs.Archive.Station
import BidArchive.Proofs.Archive.Tree
import BidArchive.Proofs.Beacon.Decoded
import BidArchive.Proofs.Bid.History
import BidArchive.Proofs.Bid.Identity
import BidArchive.Proofs.Bid.Lateness
import BidArchive.Proofs.Bid.Ledger
import BidArchive.Proofs.Bid.Memory
import BidArchive.Proofs.Bid.Output
import BidArchive.Proofs.Bid.Serving
import BidArchive.Proofs.Collector.Ending
import BidArchive.Proofs.Collector.Traffic
import BidArchive.Proofs.Json.Records
import BidArchive.Proofs.Number.Numeral
import BidArchive.Rehearsal.Agenda
import BidArchive.Rehearsal.Run
import BidArchive.Rehearsal.Script
import BidArchive.Rehearsal.Sink
import BidArchive.Rehearsal.Sources
import BidArchive.Rehearsal.Stream
import BidArchive.Rehearsal.World
import BidArchive.Relay.Answer
import BidArchive.Relay.Client
import BidArchive.Relay.Entry
import BidArchive.Relay.Header
import BidArchive.Relay.Trace
import BidArchive.Settings.Basic
import BidArchive.Settings.Environment
import BidArchive.Settings.Read
import BidArchive.Text.Blank
import BidArchive.Text.CaseIgnorable
import BidArchive.Text.Cased
import BidArchive.Text.Composed
import BidArchive.Text.Composites
import BidArchive.Text.Extending
import BidArchive.Text.Hex
import BidArchive.Text.Lower
import BidArchive.Text.LowerCase
import BidArchive.Text.Marks
import BidArchive.Text.Quoted
import BidArchive.Text.Ranges
import BidArchive.Text.Shift
import BidArchive.Text.Table
import BidArchive.Text.Unprintable
import BidArchive.Text.Utf8
import BidArchive.Time.Calendar
import BidArchive.Time.Instant
import BidArchive.Url.Address
import BidArchive.Url.Basic
import BidArchive.Url.Direction
import BidArchive.Url.Domain
import BidArchive.Url.Folding
import BidArchive.Url.Joining
import BidArchive.Url.Percent
import BidArchive.Url.Punycode
import BidArchive.Url.Refused
import BidArchive.Proofs.Chain.Starts
import BidArchive.Proofs.Feed.Heads
import BidArchive.Proofs.Feed.Requests
import BidArchive.Proofs.Feed.Polls
import BidArchive.Proofs.Text.NormalForm
import BidArchive.Proofs.Bid.Fields
import BidArchive.Proofs.Number.Spelling
import BidArchive.Proofs.Json.Members
import BidArchive.Proofs.Relay.Trace
import BidArchive.Proofs.Feed.Layout
import BidArchive.Proofs.Feed.Frames
import BidArchive.Proofs.Bid.Sightings
import BidArchive.Proofs.Feed.Range
import BidArchive.Proofs.Bid.Refusal
import BidArchive.Proofs.Collector.FailStop
import BidArchive.Proofs.Collector.Backlog
import BidArchive.Proofs.Collector.Cancellation
import BidArchive.Proofs.Bid.Arrival
import BidArchive.Proofs.Archive.Naming
import BidArchive.Proofs.Bid.Announced
import BidArchive.Proofs.Beacon.Refreshes
import BidArchive.Proofs.Chain.Rounding
import BidArchive.Proofs.Feed.Forwarding
import BidArchive.Proofs.Chain.Clocks
import BidArchive.Proofs.Bid.SlotTime
import BidArchive.Proofs.Number.Integers
import BidArchive.Proofs.Number.Values
import BidArchive.Proofs.Json.Codec
import BidArchive.Proofs.Json.Order
import BidArchive.Proofs.Relay.Listing
import BidArchive.Proofs.Relay.Times
import BidArchive.Proofs.Rehearsal.Tasks
import BidArchive.Proofs.Feed.Delays
import BidArchive.Proofs.Feed.Proposers
import BidArchive.Proofs.Text.Utf8
import BidArchive.Proofs.Text.Settled
import BidArchive.Proofs.Settings.Reading
import BidArchive.Proofs.Text.Parts
import BidArchive.Proofs.Feed.Tables
import BidArchive.Proofs.Archive.Collectors
import BidArchive.Proofs.Bid.Record
