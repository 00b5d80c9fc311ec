import BidArchive.Json.Codec

/-!
# Bid traces

The data interface of a relay lists every block submission that the relay received as a bid trace.
The time of arrival comes in seconds, in milliseconds, or not at all; relays that say nothing
about optimistic submission did not treat the bid so.
-/

namespace BidArchive.Relay

open BidArchive.Json

/-- A bid as the data interface lists it. -/
structure Trace where
  slot : Chain.Slot
  parentHash : String
  blockHash : String
  builderPubkey : String
  proposerPubkey : String
  proposerFeeRecipient : String
  value : Wide
  blockNumber : UInt64
  /-- When the relay received the bid, in seconds. -/
  timestamp : Option Int64
  /-- When the relay received the bid, in milliseconds. -/
  timestampMs : Option Int64
  optimisticSubmission : Bool
deriving DecidableEq, Repr

/-- When the relay received the bid, in milliseconds, from whichever time it gave. Seconds whose
milliseconds do not fit a word count as not given. -/
def Trace.receivedMs? (t : Trace) : Option Int64 :=
  match t.timestampMs with
  | some ms => some ms
  | none => t.timestamp.bind fun seconds => Word.mul? seconds 1000

/-- The fields of a trace read so far. -/
structure Trace.Draft where
  slot : Option Chain.Slot := none
  parentHash : Option String := none
  blockHash : Option String := none
  builderPubkey : Option String := none
  proposerPubkey : Option String := none
  proposerFeeRecipient : Option String := none
  value : Option Wide := none
  blockNumber : Option UInt64 := none
  timestamp : Option (Option Int64) := none
  timestampMs : Option (Option Int64) := none
  optimisticSubmission : Option Bool := none

/-- How a trace is laid out in JSON. -/
def Trace.schema : Schema Trace.Draft Trace where
  name := "BidTrace"
  fields := [
    { name := "slot", isSet := (·.slot.isSome),
      read := fun d node => (Json.slot node).map fun x => { d with slot := some x } },
    { name := "parent_hash", isSet := (·.parentHash.isSome),
      read := fun d node => (string node).map fun x => { d with parentHash := some x } },
    { name := "block_hash", isSet := (·.blockHash.isSome),
      read := fun d node => (string node).map fun x => { d with blockHash := some x } },
    { name := "builder_pubkey", isSet := (·.builderPubkey.isSome),
      read := fun d node => (string node).map fun x => { d with builderPubkey := some x } },
    { name := "proposer_pubkey", isSet := (·.proposerPubkey.isSome),
      read := fun d node => (string node).map fun x => { d with proposerPubkey := some x } },
    { name := "proposer_fee_recipient", isSet := (·.proposerFeeRecipient.isSome),
      read := fun d node => (string node).map fun x => { d with proposerFeeRecipient := some x } },
    { name := "value", isSet := (·.value.isSome),
      read := fun d node => (wide node).map fun x => { d with value := some x } },
    { name := "block_number", isSet := (·.blockNumber.isSome),
      read := fun d node => (unsignedWord node).map fun x => { d with blockNumber := some x } },
    { name := "timestamp", presence := .defaulted, isSet := (·.timestamp.isSome),
      read := fun d node => (optionalWord node).map fun x => { d with timestamp := some x } },
    { name := "timestamp_ms", presence := .defaulted, isSet := (·.timestampMs.isSome),
      read := fun d node => (optionalWord node).map fun x => { d with timestampMs := some x } },
    { name := "optimistic_submission", presence := .defaulted,
      isSet := (·.optimisticSubmission.isSome),
      read := fun d node => (boolean node).map fun x => { d with optimisticSubmission := some x } }]
  empty := {}
  build := fun d => do
    return {
      slot := ← d.slot
      parentHash := ← d.parentHash
      blockHash := ← d.blockHash
      builderPubkey := ← d.builderPubkey
      proposerPubkey := ← d.proposerPubkey
      proposerFeeRecipient := ← d.proposerFeeRecipient
      value := ← d.value
      blockNumber := ← d.blockNumber
      timestamp := d.timestamp.join
      timestampMs := d.timestampMs.join
      optimisticSubmission := d.optimisticSubmission.getD false }

/-- Reads a bid trace. -/
def Trace.decoder : Decoder Trace := Trace.schema.decoder

end BidArchive.Relay
