import BidArchive.Bid.Recorder
import BidArchive.Chain.Epoch
import BidArchive.Feed.KnownErrors

/-!
# Notices

What the sources and the collector have to report while they work. A notice has a level, a fixed
text and fields that say what it is about; each is worded in one place here.
-/

namespace BidArchive

open Chain (Slot Epoch)
open Feed (Outcome)

/-- How much a notice matters. -/
inductive Level
  | debug
  | info
  | warn
  | error
deriving DecidableEq, Repr

/-- The name of the level. -/
def Level.text : Level → String
  | .debug => "debug"
  | .info => "info"
  | .warn => "warn"
  | .error => "error"

/-- Something to report. -/
inductive Notice
  -- polling the data interface
  | pollerStarted (relays : Nat)
  | pollMissed (slot : Slot) (offsetMs : Int64)
  | polling (slot : Slot) (offsetMs : Int64)
  | pollerStopped
  | tracesFetched (relay : String) (slot : Slot) (offsetMs : Int64) (count : Nat)
  | tracesFailed (relay : String) (slot : Slot) (offsetMs : Int64)
  | tracesDropped (relay : String)
  -- requesting headers
  | followerStarted (relays : Nat)
  | subscribeFailed
  | headsEnded
  | resubscribing (delaySeconds : Nat)
  | followerStopped
  | badHead
  | newHead (head next : Slot)
  | alreadyScheduled (slot : Slot)
  | dutiesLoaded (epoch : Epoch) (count : Nat)
  | dutiesFailed (epoch : Epoch)
  | noProposer (slot : Slot)
  | noPayload (root : String)
  | blockHashFailed (root : String)
  | headerReceived (relay : String) (slot : Slot) (value : Wide)
  | noHeader (relay : String) (slot : Slot)
  | headerExpected (relay : String) (slot : Slot) (outcome : Outcome)
  /-- Without a message where it quotes what could not be decoded. -/
  | headerFailed (relay : String) (slot : Slot) (message : Option String)
  | headerDropped (relay : String)
  -- reading the top bid stream
  | streamConnected
  | streamRefused
  | streamClosed
  | streamFailed
  | reconnecting (delaySeconds : Nat)
  | frameDropped
  | topBidReceived (slot : Slot) (value : Wide)
  | streamDropped
  | streamStopped
  -- collecting
  | sourcesStarted
  | progress (evicted : Nat) (stats : Stats)
  | processingFailed
  | draining
  | drained (batches : Nat)
  | sourceFailed
  | sourcesLate
  | collectorStopped (stats : Stats)
deriving DecidableEq, Repr

namespace Notice

/-- The level and the text of a notice. -/
def wording : Notice → Level × String
  | .pollerStarted _ => (.info, "starting data api poller")
  | .pollMissed _ _ => (.warn, "poll time already passed, skipping")
  | .polling _ _ => (.debug, "polling relays for bid traces")
  | .pollerStopped => (.debug, "data api poller stopped")
  | .tracesFetched _ _ _ _ => (.debug, "fetched bid traces")
  | .tracesFailed _ _ _ => (.warn, "failed to fetch bid traces")
  | .tracesDropped _ => (.debug, "bid channel closed, dropping bid traces")
  | .followerStarted _ => (.info, "starting get header poller")
  | .subscribeFailed => (.warn, "failed to subscribe to beacon node head events")
  | .headsEnded => (.warn, "beacon node head event stream ended")
  | .resubscribing _ => (.info, "resubscribing to head events")
  | .followerStopped => (.debug, "get header poller stopped")
  | .badHead => (.warn, "bad head event")
  | .newHead _ _ => (.debug, "new head")
  | .alreadyScheduled _ => (.debug, "get header already scheduled for slot, skipping")
  | .dutiesLoaded _ _ => (.debug, "loaded proposer duties")
  | .dutiesFailed _ => (.warn, "failed to refresh proposer duties")
  | .noProposer _ => (.info, "no known proposer, skipping get header")
  | .noPayload _ => (.warn, "head block has no execution payload, skipping get header")
  | .blockHashFailed _ => (.warn, "failed to get head execution block hash")
  | .headerReceived _ _ _ => (.debug, "received header")
  | .noHeader _ _ => (.debug, "relay has no bid")
  | .headerExpected _ _ _ => (.debug, "expected get header outcome")
  | .headerFailed _ _ _ => (.warn, "failed to get header")
  | .headerDropped _ => (.debug, "bid channel closed, dropping header")
  | .streamConnected => (.info, "connected to top bid stream")
  | .streamRefused => (.warn, "failed to connect to top bid stream")
  | .streamClosed => (.warn, "top bid stream closed")
  | .streamFailed => (.warn, "top bid stream read failed")
  | .reconnecting _ => (.info, "reconnecting to top bid stream")
  | .frameDropped => (.warn, "dropping undecodable top bid update")
  | .topBidReceived _ _ => (.debug, "received top bid update")
  | .streamDropped => (.debug, "bid channel closed, stopping top bid stream")
  | .streamStopped => (.debug, "top bid stream client stopped")
  | .sourcesStarted => (.info, "started bid sources")
  | .progress _ _ => (.info, "bid collection progress")
  | .processingFailed => (.error, "failed to process bids, stopping collector")
  | .draining => (.info, "stopping collector, draining buffered bids")
  | .drained _ => (.debug, "drained buffered bid batches")
  | .sourceFailed => (.warn, "bid source task failed")
  | .sourcesLate => (.warn, "bid sources did not stop in time, aborting them")
  | .collectorStopped _ => (.info, "collector stopped")

/-- The fields of a notice, in the order of their names. -/
def fields : Notice → List (String × String)
  | .pollerStarted relays => [("relays", relays.repr)]
  | .pollMissed slot offset => [("offset_ms", offset.toInt.repr), ("slot", slot.text)]
  | .polling slot offset => [("offset_ms", offset.toInt.repr), ("slot", slot.text)]
  | .tracesFetched relay slot offset count =>
    [("count", count.repr), ("offset_ms", offset.toInt.repr), ("relay", relay),
      ("slot", slot.text)]
  | .tracesFailed relay slot offset =>
    [("offset_ms", offset.toInt.repr), ("relay", relay), ("slot", slot.text)]
  | .tracesDropped relay => [("relay", relay)]
  | .followerStarted relays => [("relays", relays.repr)]
  | .resubscribing delay => [("delay_secs", delay.repr)]
  | .newHead head next => [("head_slot", head.text), ("slot", next.text)]
  | .alreadyScheduled slot => [("slot", slot.text)]
  | .dutiesLoaded epoch count => [("count", count.repr), ("epoch", epoch.text)]
  | .dutiesFailed epoch => [("epoch", epoch.text)]
  | .noProposer slot => [("slot", slot.text)]
  | .noPayload root => [("block_root", root)]
  | .blockHashFailed root => [("block_root", root)]
  | .headerReceived relay slot value =>
    [("relay", relay), ("slot", slot.text), ("value", value.text)]
  | .noHeader relay slot => [("relay", relay), ("slot", slot.text)]
  | .headerExpected relay slot outcome =>
    [("outcome", outcome.text), ("relay", relay), ("slot", slot.text)]
  | .headerFailed relay slot (some message) =>
    [("message", message), ("relay", relay), ("slot", slot.text)]
  | .headerFailed relay slot none => [("relay", relay), ("slot", slot.text)]
  | .headerDropped relay => [("relay", relay)]
  | .reconnecting delay => [("delay_secs", delay.repr)]
  | .topBidReceived slot value => [("slot", slot.text), ("value", value.text)]
  | .progress evicted stats =>
    [("bids_received", stats.received.repr), ("evicted", evicted.repr),
      ("top_bids", stats.topped.repr), ("tracked_slots", stats.slots.repr),
      ("unique_bids", stats.unique.repr)]
  | .drained batches => [("drained", batches.repr)]
  | .collectorStopped stats =>
    [("bids_received", stats.received.repr), ("top_bids", stats.topped.repr),
      ("unique_bids", stats.unique.repr)]
  | _ => []

/-- The texts of a notice: level, text and the fields with their names. -/
def line (notice : Notice) : List String :=
  let (level, text) := notice.wording
  level.text :: text :: notice.fields.map fun (name, value) => name ++ "=" ++ value

end Notice

end BidArchive
