import BidArchive.Chain.Slot

/-!
# Epochs

Thirty-two slots make an epoch. The validators that propose its blocks are settled per epoch.
-/

namespace BidArchive.Chain

/-- An epoch by its number. -/
structure Epoch where
  number : Int64
deriving DecidableEq, Repr

namespace Epoch

/-- The number in decimal. -/
def text (e : Epoch) : String := e.number.toInt.repr

/-- The first slot of the epoch, if its number fits a word. -/
def firstSlot? (e : Epoch) : Option Slot := (Word.mul? e.number slotsPerEpoch).map Slot.mk

/-- The epoch `count` epochs later. -/
def later? (e : Epoch) (count : Int64) : Option Epoch :=
  (Word.add? e.number count).map Epoch.mk

end Epoch

/-- The epoch the slot belongs to. -/
def Slot.epoch (s : Slot) : Epoch := ⟨Int64.ofInt (s.number.toInt / 32)⟩

end BidArchive.Chain
