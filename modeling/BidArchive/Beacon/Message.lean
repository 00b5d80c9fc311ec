import BidArchive.Json.Codec
import BidArchive.Json.Envelope

/-!
# Messages of a beacon node

A beacon node announces every block that becomes the head of the chain, lists who proposes the
slots of an epoch, and hands out blocks, of which only the hash of the execution payload is of
interest. Blocks without a payload exist.
-/

namespace BidArchive.Beacon

open BidArchive.Json

/-- A block became the head of the chain. -/
structure Head where
  slot : Chain.Slot
  /-- The root of the block. -/
  block : String
deriving DecidableEq, Repr

/-- The fields of a head read so far. -/
structure Head.Draft where
  slot : Option Chain.Slot := none
  block : Option String := none

/-- How a head is laid out in JSON. -/
def Head.schema : Schema Head.Draft Head where
  name := "HeadEvent"
  fields := [
    { name := "slot", isSet := (·.slot.isSome),
      read := fun d node => (Json.slot node).map fun x => { d with slot := some x } },
    { name := "block", isSet := (·.block.isSome),
      read := fun d node => (string node).map fun x => { d with block := some x } }]
  empty := {}
  build := fun d => do
    return { slot := ← d.slot, block := ← d.block }

/-- A validator is to propose the block of a slot. -/
structure Duty where
  pubkey : String
  validatorIndex : UInt64
  slot : Chain.Slot
deriving DecidableEq, Repr

/-- The fields of a duty read so far. -/
structure Duty.Draft where
  pubkey : Option String := none
  validatorIndex : Option UInt64 := none
  slot : Option Chain.Slot := none

/-- How a duty is laid out in JSON. -/
def Duty.schema : Schema Duty.Draft Duty where
  name := "ProposerDuty"
  fields := [
    { name := "pubkey", isSet := (·.pubkey.isSome),
      read := fun d node => (string node).map fun x => { d with pubkey := some x } },
    { name := "validator_index", isSet := (·.validatorIndex.isSome),
      read := fun d node => (unsignedWord node).map fun x => { d with validatorIndex := some x } },
    { name := "slot", isSet := (·.slot.isSome),
      read := fun d node => (Json.slot node).map fun x => { d with slot := some x } }]
  empty := {}
  build := fun d => do
    return { pubkey := ← d.pubkey, validatorIndex := ← d.validatorIndex, slot := ← d.slot }

/-- Reads the duties of an epoch from the answer of a beacon node. -/
def dutiesDecoder : Decoder (List Duty) :=
  (envelope "ProposerDutiesEnvelope" "data" (list Duty.schema.decoder) none).decoder

/-- Reads a payload that may be `null`. -/
def payloadDecoder : Decoder (Option String)
  | .null => .ok none
  | node => ((envelope "ExecutionPayload" "block_hash" string none).decoder node).map some

/-- Reads the hash of the execution payload from the block that a beacon node answers with. A
block without a payload, or with a payload of `null`, has none. -/
def blockHashDecoder : Decoder (Option String) :=
  let body := envelope "BeaconBlockBody" "execution_payload" payloadDecoder (some none)
  let block := envelope "BeaconBlock" "body" body.decoder none
  let signed := envelope "BeaconBlockSignedEnvelope" "message" block.decoder none
  (envelope "BeaconBlockVersionedEnvelope" "data" signed.decoder none).decoder

end BidArchive.Beacon
