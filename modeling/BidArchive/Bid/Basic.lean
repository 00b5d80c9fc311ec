import BidArchive.Bid.Source
import BidArchive.Chain.Slot
import BidArchive.Number.Wide
import BidArchive.Text.Lower
import BidArchive.Text.Blank

/-!
# Bids

A bid is an offer of a block for a slot, brought into one form whatever its source. Its identity is
its `key`: slot, hashes, builder and value, in one text, so that the same bid seen through several
relays or at several times counts once. A row of output holds the fifteen cells of `record`, in
the order of `columns`; what a source does not report is an empty cell.
-/

namespace BidArchive

/-- A bid from any source. -/
structure Bid where
  source : Source
  /-- When the bid reached this program. -/
  receivedAtMs : Int64
  /-- When the source says that the bid arrived. -/
  timestampMs : Option Int64
  slot : Chain.Slot
  value : Wide
  blockHash : String
  parentHash : String
  builderPubkey : String
  blockNumber : UInt64
  blockFeeRecipient : String
  relay : String
  proposerPubkey : String
  proposerFeeRecipient : String
  optimisticSubmission : Option Bool
deriving DecidableEq, Repr

/-- The names of the cells of a row. Readers of the output go by position, so the order is fixed. -/
def columns : List String :=
  ["source_type", "received_at_ms", "timestamp_ms", "slot", "slot_t_ms", "value", "block_hash",
    "parent_hash", "builder_pubkey", "block_number", "block_fee_recipient", "relay",
    "proposer_pubkey", "proposer_fee_recipient", "optimistic_submission"]

namespace Bid

/-- Milliseconds from the start of the slot to the time that the source reports. There are none
when the source reports no time, the start of the slot fits no word, or the difference does not. -/
def sinceSlotStart? (bid : Bid) : Option Int64 := do
  let start ← bid.slot.start?
  let reported ← bid.timestampMs
  Word.sub? reported start

/-- The identity of the bid. -/
def key (bid : Bid) : String :=
  "|".intercalate
    [bid.slot.text, bid.blockHash, bid.parentHash, bid.builderPubkey, bid.value.text]

/-- A number as a cell, an absent one as an empty cell. -/
def numberCell (n : Option Int64) : String :=
  match n with
  | some n => n.toInt.repr
  | none => ""

/-- A truth value as a cell, an absent one as an empty cell. -/
def boolCell (b : Option Bool) : String :=
  match b with
  | some true => "true"
  | some false => "false"
  | none => ""

/-- The row of the bid. -/
def record (bid : Bid) : List String :=
  [bid.source.text,
    bid.receivedAtMs.toInt.repr,
    numberCell bid.timestampMs,
    bid.slot.text,
    numberCell bid.sinceSlotStart?,
    bid.value.text,
    bid.blockHash,
    bid.parentHash,
    bid.builderPubkey,
    bid.blockNumber.toNat.repr,
    bid.blockFeeRecipient,
    bid.relay,
    bid.proposerPubkey,
    bid.proposerFeeRecipient,
    boolCell bid.optimisticSubmission]

end Bid

/-- Relays differ in the case of the hexadecimal they send and in the blanks around it. Texts that
identify a bid are compared without blanks around them and in lower case. -/
def normalHex (s : String) : String := String.ofList (Text.lower (Text.trim s.toList))

end BidArchive
