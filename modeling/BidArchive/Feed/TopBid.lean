import BidArchive.Bid.Basic
import BidArchive.Text.Hex

/-!
# Top bid frames

The top bid stream sends every new highest bid as a frame of 188 bytes: timestamp, slot and block
number as words of eight bytes, then block hash, parent hash, builder key, fee recipient and the
value in 32 bytes. Numbers have their lowest byte first.
-/

namespace BidArchive.Feed

/-- The number whose bytes are given, lowest first. -/
def littleEndian : List UInt8 → Nat
  | [] => 0
  | b :: rest => b.toNat + 256 * littleEndian rest

/-- How many bytes a frame has. -/
def frameLength : Nat := 188

/-- A new highest bid. -/
structure TopBid where
  timestampMs : UInt64
  slot : Chain.Slot
  blockNumber : UInt64
  blockHash : List UInt8
  parentHash : List UInt8
  builderPubkey : List UInt8
  feeRecipient : List UInt8
  value : Wide
deriving DecidableEq, Repr

/-- Why a frame is no top bid. -/
inductive FrameFault
  | invalidLength (length : Nat)
  | slotOutOfRange (slot : UInt64)
deriving DecidableEq, Repr

/-- The wording of a fault. -/
def FrameFault.message : FrameFault → String
  | .invalidLength length =>
    "expected top bid update of " ++ frameLength.repr ++ " bytes, got " ++ length.repr
  | .slotOutOfRange slot => "slot out of range: " ++ slot.toNat.repr

/-- The word of eight bytes that begins at the given place. -/
def wordAt (bytes : List UInt8) (start : Nat) : UInt64 :=
  UInt64.ofNat (littleEndian ((bytes.drop start).take 8))

/-- Reads a frame. -/
def TopBid.ofFrame (bytes : List UInt8) : Except FrameFault TopBid :=
  if bytes.length ≠ frameLength then .error (.invalidLength bytes.length)
  else
    let raw := wordAt bytes 8
    match (Word.signed? raw.toNat).map Chain.Slot.mk with
    | some slot =>
      if slot.inRange then
        .ok {
          timestampMs := wordAt bytes 0
          slot := slot
          blockNumber := wordAt bytes 16
          blockHash := (bytes.drop 24).take 32
          parentHash := (bytes.drop 56).take 32
          builderPubkey := (bytes.drop 88).take 48
          feeRecipient := (bytes.drop 136).take 20
          value := BitVec.ofNat 256 (littleEndian ((bytes.drop 156).take 32)) }
      else .error (.slotOutOfRange raw)
    | none => .error (.slotOutOfRange raw)

end BidArchive.Feed

namespace BidArchive

/-- The bid that the top bid stream announces. A timestamp that fits no signed word is left out. -/
def Bid.ofTopBid (top : Feed.TopBid) (relay : String) (receivedAtMs : Int64) : Bid where
  source := .ultrasoundStream
  receivedAtMs := receivedAtMs
  timestampMs := Word.signed? top.timestampMs.toNat
  slot := top.slot
  value := top.value
  blockHash := Text.prefixedHex top.blockHash
  parentHash := Text.prefixedHex top.parentHash
  builderPubkey := Text.prefixedHex top.builderPubkey
  blockNumber := top.blockNumber
  blockFeeRecipient := Text.prefixedHex top.feeRecipient
  relay := relay
  proposerPubkey := ""
  proposerFeeRecipient := ""
  optimisticSubmission := none

end BidArchive
