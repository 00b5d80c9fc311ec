import BidArchive.Json.Codec
import BidArchive.Json.Envelope

/-!
# Offered headers

On request a relay offers the header of the best block it has for a slot, with the value it pays
and the relay's signing key. The answer wraps the offer in an envelope with its signature.
-/

namespace BidArchive.Relay

open BidArchive.Json

/-- The header of an execution block, as far as it is of interest. -/
structure PayloadHeader where
  parentHash : String
  feeRecipient : String
  blockHash : String
  blockNumber : UInt64
  timestamp : UInt64
deriving DecidableEq, Repr

/-- The fields of a header read so far. -/
structure PayloadHeader.Draft where
  parentHash : Option String := none
  feeRecipient : Option String := none
  blockHash : Option String := none
  blockNumber : Option UInt64 := none
  timestamp : Option UInt64 := none

/-- How a header is laid out in JSON. -/
def PayloadHeader.schema : Schema PayloadHeader.Draft PayloadHeader where
  name := "ExecutionPayloadHeader"
  fields := [
    { name := "parent_hash", isSet := (·.parentHash.isSome),
      read := fun d node => (string node).map fun x => { d with parentHash := some x } },
    { name := "fee_recipient", isSet := (·.feeRecipient.isSome),
      read := fun d node => (string node).map fun x => { d with feeRecipient := some x } },
    { name := "block_hash", isSet := (·.blockHash.isSome),
      read := fun d node => (string node).map fun x => { d with blockHash := some x } },
    { name := "block_number", isSet := (·.blockNumber.isSome),
      read := fun d node => (unsignedWord node).map fun x => { d with blockNumber := some x } },
    { name := "timestamp", isSet := (·.timestamp.isSome),
      read := fun d node => (unsignedWord node).map fun x => { d with timestamp := some x } }]
  empty := {}
  build := fun d => do
    return {
      parentHash := ← d.parentHash
      feeRecipient := ← d.feeRecipient
      blockHash := ← d.blockHash
      blockNumber := ← d.blockNumber
      timestamp := ← d.timestamp }

/-- An offer of a relay. -/
structure Offer where
  header : PayloadHeader
  value : Wide
  /-- The key of the relay that signs the offer. -/
  pubkey : String
deriving DecidableEq, Repr

/-- The fields of an offer read so far. -/
structure Offer.Draft where
  header : Option PayloadHeader := none
  value : Option Wide := none
  pubkey : Option String := none

/-- How an offer is laid out in JSON. -/
def Offer.schema : Schema Offer.Draft Offer where
  name := "BuilderBid"
  fields := [
    { name := "header", isSet := (·.header.isSome),
      read := fun d node =>
        (PayloadHeader.schema.decoder node).map fun x => { d with header := some x } },
    { name := "value", isSet := (·.value.isSome),
      read := fun d node => (wide node).map fun x => { d with value := some x } },
    { name := "pubkey", isSet := (·.pubkey.isSome),
      read := fun d node => (string node).map fun x => { d with pubkey := some x } }]
  empty := {}
  build := fun d => do
    return { header := ← d.header, value := ← d.value, pubkey := ← d.pubkey }

/-- Reads an offer. -/
def Offer.decoder : Decoder Offer := Offer.schema.decoder

/-- Reads an offer from the signed answer of a relay. -/
def Offer.answerDecoder : Decoder Offer :=
  let signed := envelope "SignedBuilderBid" "message" Offer.decoder none
  (envelope "GetHeaderResponse" "data" signed.decoder none).decoder

end BidArchive.Relay
