import BidArchive.Bid.Basic
import BidArchive.Proofs.Chain.Starts

/-!
# Times within a slot

A bid is dated by the source that reports it, and its row tells how far that is from the start of
its slot. Both the start and the distance are worked out in words, one step after the other, and a
step that does not fit leaves the result absent. No step refuses what would have come out right in
the end: start and distance are there if and only if the integers they stand for fit a word
(`times_exact`).
-/

namespace BidArchive

open Chain (Slot)

namespace Bid

/-- **The distance from the start of the slot** is there if and only if the start and the distance
itself fit a word. -/
theorem sinceSlotStart?_eq_some_iff {bid : Bid} {distance : Int64} :
    bid.sinceSlotStart? = some distance ↔ bid.slot.start?.isSome
      ∧ ∃ reported, bid.timestampMs = some reported
        ∧ distance.toInt = reported.toInt - bid.slot.startInt := by
  unfold sinceSlotStart?
  simp only [Option.bind_eq_bind, Option.bind_eq_some_iff, Word.sub?_eq_some_iff,
    Option.isSome_iff_exists]
  constructor
  · rintro ⟨start, hstart, reported, hreported, hdistance⟩
    rw [Slot.start?_eq_some_iff.mp hstart] at hdistance
    exact ⟨⟨start, hstart⟩, reported, hreported, hdistance⟩
  · rintro ⟨⟨start, hstart⟩, reported, hreported, hdistance⟩
    refine ⟨start, hstart, reported, hreported, ?_⟩
    rw [Slot.start?_eq_some_iff.mp hstart]
    exact hdistance

end Bid

/--
**Starts of slots and distances from them are exact.**

For every number of a slot: the start is there if and only if it fits a word, and is what the
integers say. Clamped it is the nearest word, so that no slot starts before an earlier one. The
slots in range are just those from genesis whose start fits, and so the last of them, which is got
from the largest word by division, is the last that fits. And for every bid the distance from the
start of its slot to the time reported is there if and only if there is such a time and both the
start and the distance fit.
-/
theorem times_exact :
    (∀ (s : Slot) (ms : Int64), s.start? = some ms ↔ ms.toInt = s.startInt)
      ∧ (∀ s : Slot, s.start?.isSome
          ↔ -0x8000000000000000 ≤ s.startInt ∧ s.startInt < 0x8000000000000000)
      ∧ (∀ s : Slot,
          s.startMs.toInt = max (-0x8000000000000000) (min s.startInt 0x7fffffffffffffff))
      ∧ (∀ s t : Slot, s ≤ t → s.startMs.toInt ≤ t.startMs.toInt)
      ∧ (∀ s : Slot, s.inRange = true ↔ 0 ≤ s.number.toInt ∧ s.start?.isSome)
      ∧ Slot.last.number
          = (Int64.maxValue / 1000 - Chain.genesisSeconds) / Chain.slotSeconds
      ∧ ∀ (bid : Bid) (distance : Int64), bid.sinceSlotStart? = some distance
          ↔ bid.slot.start?.isSome ∧ ∃ reported, bid.timestampMs = some reported
            ∧ distance.toInt = reported.toInt - bid.slot.startInt := by
  refine ⟨fun _ _ => Slot.start?_eq_some_iff, fun _ => Slot.isSome_start?_iff,
    Slot.startMs_clamped, fun s t hle => ?_, fun _ => Slot.inRange_iff_isSome_start?, by decide,
    fun _ _ => Bid.sinceSlotStart?_eq_some_iff⟩
  rw [Slot.le_iff] at hle
  rw [s.startMs_clamped, t.startMs_clamped]
  unfold Slot.startInt
  omega

/-- The first slot that starts too late for a word is clamped, and starts no earlier than the last
in range. -/
theorem times_behind_last : Slot.last.startMs.toInt ≤ (⟨768614202502563⟩ : Slot).startMs.toInt
    ∧ (⟨768614202502563⟩ : Slot).startMs.toInt = 0x7fffffffffffffff
    ∧ (⟨768614202502563⟩ : Slot).start? = none := by
  obtain ⟨-, hfits, hclamped, hmonotone, -⟩ := times_exact
  refine ⟨hmonotone _ _ (by decide), ?_, ?_⟩
  · rw [hclamped]
    decide
  · refine Option.not_isSome_iff_eq_none.mp (mt (hfits _).mp ?_)
    decide

end BidArchive
