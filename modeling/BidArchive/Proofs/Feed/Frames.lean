import BidArchive.Proofs.Feed.Layout

/-!
# What a frame holds

A frame that is read has the length of a frame and a slot in range, and every part of the
bid is what stands in its place among the bytes. So the bytes alone say how the bid is
identified (`frameKey`).
-/

namespace BidArchive.Feed

open Chain (Slot)

variable {frame : List UInt8} {top : TopBid}

/-- **The parts of a frame that is read**, as far as they identify the bid. -/
theorem parts_of_ofFrame (h : TopBid.ofFrame frame = .ok top) :
    frame.length = frameLength ∧ top.slot.inRange = true
      ∧ top.slot.number.toInt = littleEndian ((frame.drop 8).take 8)
      ∧ top.blockHash = (frame.drop 24).take 32 ∧ top.parentHash = (frame.drop 56).take 32
      ∧ top.builderPubkey = (frame.drop 88).take 48
      ∧ top.value.toNat = littleEndian ((frame.drop 156).take 32) := by
  obtain ⟨hlength, hparts⟩ := TopBid.parts_eq_cut h
  have hrange := (TopBid.ofFrame_eq_ok_iff.mp h).2.1
  obtain ⟨hlo, hhi⟩ := Slot.inRange_iff.mp hrange
  rw [TopBid.parts, cut_partWidths] at hparts
  simp only [List.cons.injEq] at hparts
  obtain ⟨-, hslot, -, hblock, hparent, hbuilder, -, hvalue, -⟩ := hparts
  refine ⟨hlength, hrange, ?_, hblock, hparent, hbuilder, ?_⟩
  · rw [← hslot, littleEndian_littleEndianBytes (by omega)]
    omega
  · rw [← hvalue, littleEndian_littleEndianBytes top.value.isLt]

/-- The identity of the bid that a frame announces, as its bytes have it. -/
def frameKey (frame : List UInt8) : String :=
  "|".intercalate
    [(littleEndian ((frame.drop 8).take 8)).repr, Text.prefixedHex ((frame.drop 24).take 32),
      Text.prefixedHex ((frame.drop 56).take 32), Text.prefixedHex ((frame.drop 88).take 48),
      (littleEndian ((frame.drop 156).take 32)).repr]

/-- **The bid that a frame announces has the key of the frame.** -/
theorem key_ofTopBid (h : TopBid.ofFrame frame = .ok top) (relay : String) (receivedAtMs : Int64) :
    (Bid.ofTopBid top relay receivedAtMs).key = frameKey frame := by
  obtain ⟨_, _, hslot, hblock, hparent, hbuilder, hvalue⟩ := parts_of_ofFrame h
  have htext : top.slot.text = (littleEndian ((frame.drop 8).take 8)).repr := by
    unfold Slot.text
    rw [hslot]
    rfl
  unfold Bid.key Bid.ofTopBid frameKey Wide.text
  dsimp only
  rw [htext, hblock, hparent, hbuilder, hvalue]

end BidArchive.Feed
