import BidArchive.Bid.Sink
import BidArchive.Chain.SlotMap

/-!
# The ledger

The ledger remembers, for every slot that bids came in for, the keys of the bids seen and the
highest bid. It decides what is written: a bid counts as new if its key was not seen for its slot,
and as the new top bid if it is higher than the highest so far, so that of equal bids the first
one stays.

Keys and highest bids are kept apart, and a slot is remembered from the moment a bid comes in for
it, so before it has a highest bid. Slots that fell behind are dropped from both.
-/

namespace BidArchive

open Chain (Slot SlotMap)

/-- The bids seen so far, and how many there were. -/
structure Ledger where
  /-- The keys of the bids seen. -/
  keys : SlotMap (List String) := .empty
  /-- The highest bids. -/
  tops : SlotMap Bid := .empty
  received : Nat := 0
  unique : Nat := 0
  topped : Nat := 0
deriving Repr

namespace Ledger

/-- The keys that were seen for a slot. -/
def keysOf (ledger : Ledger) (slot : Slot) : List String := (ledger.keys.get? slot).getD []

/-- The highest bid of a slot. -/
def top? (ledger : Ledger) (slot : Slot) : Option Bid := ledger.tops.get? slot

/-- The slots that something is remembered of, in ascending order. -/
def slots (ledger : Ledger) : List Slot := ledger.keys.slots

/-- The bid's key was seen for its slot. -/
def seen (ledger : Ledger) (bid : Bid) : Bool := (ledger.keysOf bid.slot).contains bid.key

/-- The bid is higher than all that are remembered for its slot. -/
def leads (ledger : Ledger) (bid : Bid) : Bool :=
  match ledger.top? bid.slot with
  | some top => decide (top.value < bid.value)
  | none => true

/-- Counts an arrival, whose slot is remembered from here on. -/
def arrive (ledger : Ledger) (bid : Bid) : Ledger :=
  { ledger with
    keys := ledger.keys.change bid.slot fun keys => keys.getD []
    received := ledger.received + 1 }

/-- Remembers the key of a new bid. -/
def enroll (ledger : Ledger) (bid : Bid) : Ledger :=
  { ledger with
    keys := ledger.keys.change bid.slot fun keys => bid.key :: keys.getD []
    unique := ledger.unique + 1 }

/-- Remembers a new highest bid. -/
def crown (ledger : Ledger) (bid : Bid) : Ledger :=
  { ledger with
    tops := ledger.tops.change bid.slot fun _ => bid
    topped := ledger.topped + 1 }

/-- Forgets the slots before the given one. -/
def forget (ledger : Ledger) (oldest : Slot) : Ledger :=
  { ledger with keys := ledger.keys.keepFrom oldest, tops := ledger.tops.keepFrom oldest }

end Ledger

end BidArchive
