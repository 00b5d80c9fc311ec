import BidArchive.Bid.Basic
import BidArchive.Relay.Header
import BidArchive.Relay.Trace

/-!
# Bids from relay answers

What a relay answers is brought into the common form here: identifying texts in normal form, the
relay's host name and the time of receipt added, and absent what the answer does not tell.
-/

namespace BidArchive

/-- The bid that a relay lists in its data interface. -/
def Bid.ofTrace (trace : Relay.Trace) (relay : String) (receivedAtMs : Int64) : Bid where
  source := .dataApi
  receivedAtMs := receivedAtMs
  timestampMs := trace.receivedMs?
  slot := trace.slot
  value := trace.value
  blockHash := normalHex trace.blockHash
  parentHash := normalHex trace.parentHash
  builderPubkey := normalHex trace.builderPubkey
  blockNumber := trace.blockNumber
  blockFeeRecipient := ""
  relay := relay
  proposerPubkey := normalHex trace.proposerPubkey
  proposerFeeRecipient := normalHex trace.proposerFeeRecipient
  optimisticSubmission := some trace.optimisticSubmission

/-- The bid that a relay offers the proposer of a slot. -/
def Bid.ofOffer (offer : Relay.Offer) (slot : Chain.Slot) (relay proposerPubkey : String)
    (receivedAtMs : Int64) : Bid where
  source := .getHeader
  receivedAtMs := receivedAtMs
  timestampMs := none
  slot := slot
  value := offer.value
  blockHash := normalHex offer.header.blockHash
  parentHash := normalHex offer.header.parentHash
  builderPubkey := normalHex offer.pubkey
  blockNumber := offer.header.blockNumber
  blockFeeRecipient := normalHex offer.header.feeRecipient
  relay := relay
  proposerPubkey := normalHex proposerPubkey
  proposerFeeRecipient := ""
  optimisticSubmission := none

end BidArchive
