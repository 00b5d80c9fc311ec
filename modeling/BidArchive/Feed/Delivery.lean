import BidArchive.Feed.Intake
import BidArchive.Notice
import BidArchive.Relay.Answer

/-!
# Deliveries

What the answer of a relay amounts to: something to report, and a batch of bids to hand on. A poll
hands on one batch with a bid for each trace, in the order of the traces; a header makes a batch of
one. Nothing is handed on for an empty list or a failure.
-/

namespace BidArchive.Feed

open Chain (Slot)

/-- What an answer amounts to. -/
structure Delivery where
  notices : List Notice
  /-- The bids to hand on, none for nothing. -/
  batch : List Bid
  /-- What there is to report if nobody takes the batch. -/
  dropped : Notice
deriving DecidableEq, Repr

/-- What is handed on: all bids in one batch, and nothing where there are none. -/
def Delivery.batches (delivery : Delivery) : List (List Bid) :=
  if delivery.batch.isEmpty then [] else [delivery.batch]

/-- The answer to a poll. -/
def Delivery.ofTraces {ε : Type} (relay : String) (slot : Slot) (offsetMs nowMs : Int64)
    (answer : Except ε (List Relay.Trace)) : Delivery :=
  match answer with
  | .error _ => ⟨[.tracesFailed relay slot offsetMs], [], .tracesDropped relay⟩
  | .ok traces =>
    ⟨[.tracesFetched relay slot offsetMs traces.length],
      traces.map fun trace => Bid.ofTrace trace relay nowMs, .tracesDropped relay⟩

/-- What a failure to answer with an offer means. -/
def faultNotice (relay : String) (slot : Slot) (table : KnownErrors)
    (fault : Relay.HeaderFault) : Notice :=
  if fault = .noContent then .noHeader relay slot
  else
    match table.classify fault.message with
    | some outcome => .headerExpected relay slot outcome
    | none => .headerFailed relay slot fault.report?

/-- The answer to a request for a header. -/
def Delivery.ofHeader (relay : String) (slot : Slot) (proposer : String) (table : KnownErrors)
    (nowMs : Int64) (answer : Except Relay.HeaderFault Relay.Offer) : Delivery :=
  match answer with
  | .error fault => ⟨[faultNotice relay slot table fault], [], .headerDropped relay⟩
  | .ok offer =>
    ⟨[.headerReceived relay slot offer.value],
      [Bid.ofOffer offer slot relay proposer nowMs], .headerDropped relay⟩

end BidArchive.Feed
