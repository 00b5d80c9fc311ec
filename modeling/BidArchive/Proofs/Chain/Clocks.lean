import BidArchive.Proofs.Chain.Starts

/-!
# The two clocks of a slot

The start of a slot is told in milliseconds and as an instant of the calendar. Where there is an
instant the two tell the same moment, and the slot is the one in progress then (`clocks_agree`). But
they do not reach equally far: words of milliseconds last for 292 million years, and the calendar
ends with the year 262142. The slots in range are those whose milliseconds fit a word. So behind
`lastDated` there are slots in range whose start is no instant (`slot_after_calendar`), and in fact
nearly all of them lie there.
-/

namespace BidArchive.Chain

open Time (Instant)

namespace Slot

variable {s : Slot} {i : Instant}

/-- The first slot that starts within the calendar. -/
def firstDated : Slot := ⟨-694684004401⟩

/-- The last slot that starts within the calendar. -/
def lastDated : Slot := ⟨684055004398⟩

/-- **The instant at which a slot starts** is that of its start in milliseconds. -/
theorem instant?_eq_some_iff :
    s.instant? = some i ↔ i.seconds * 1000 = s.startInt ∧ i.nanos = 0 := by
  unfold instant? startInt
  simp only [Option.bind_eq_bind, Option.bind_eq_some_iff, Word.mul?_eq_some_iff,
    Instant.ofSeconds?_eq_some_iff, toInt_slotSeconds, toInt_genesisSeconds]
  constructor
  · rintro ⟨w, hw, hseconds, hnanos⟩
    exact ⟨by omega, hnanos⟩
  · rintro ⟨hseconds, hnanos⟩
    -- the seconds of the calendar are few enough for the product to fit
    have hfirst := i.first_le
    have hlast := i.le_last
    unfold Time.firstSecond at hfirst
    unfold Time.lastSecond at hlast
    obtain ⟨w, hw⟩ := Word.exists_toInt_eq (n := s.number.toInt * 12) (by omega) (by omega)
    exact ⟨w, hw, by omega, hnanos⟩

/-- The slots whose start is an instant. -/
theorem exists_instant?_iff : (∃ i, s.instant? = some i) ↔ firstDated ≤ s ∧ s ≤ lastDated := by
  have hfirst : firstDated.number.toInt = -694684004401 := by decide
  have hlast : lastDated.number.toInt = 684055004398 := by decide
  rw [le_iff, le_iff, hfirst, hlast]
  constructor
  · rintro ⟨i, hi⟩
    have hseconds := (instant?_eq_some_iff.mp hi).1
    have hlo := i.first_le
    have hhi := i.le_last
    unfold Time.firstSecond at hlo
    unfold Time.lastSecond at hhi
    unfold startInt at hseconds
    omega
  · rintro ⟨hlo, hhi⟩
    refine ⟨⟨s.number.toInt * 12 + 1606824023, 0, ?_, ?_, by decide⟩,
      instant?_eq_some_iff.mpr ⟨rfl, rfl⟩⟩
    · unfold Time.firstSecond
      omega
    · unfold Time.lastSecond
      omega

/-- At the instant at which a slot starts both clocks tell the same, and the slot is in progress. -/
theorem agree_of_instant? (hi : s.instant? = some i) :
    s.start? = some s.startMs ∧ i.millis = s.startMs.toInt ∧ atInstant? i = some s := by
  obtain ⟨hseconds, hnanos⟩ := instant?_eq_some_iff.mp hi
  have hmillis : i.millis = s.startInt := by
    unfold Instant.millis
    omega
  obtain ⟨ms, t, hms, hat, hcurrent⟩ := exists_atInstant? i
  have hstart : s.start? = some ms := start?_eq_some_iff.mpr (hms.trans hmillis)
  obtain rfl := startMs_of_start? hstart
  have hsame : t = s := by
    have hbegun := le_of_at? hat
    rw [hms, hmillis] at hbegun
    unfold startInt at hbegun
    exact eq_iff.mpr (by omega)
  exact ⟨hstart, hms.symm, hsame ▸ hcurrent⟩

end Slot

/--
**The two clocks of a slot agree as far as the calendar goes**, and no further.

A slot from the first to the last that start within the calendar has an instant, whose milliseconds
are the start of the slot, not clamped, and at which the slot is in progress. All other slots have
none.
-/
theorem clocks_agree (s : Slot) :
    (Slot.firstDated ≤ s → s ≤ Slot.lastDated → ∃ i, s.instant? = some i
        ∧ s.start? = some s.startMs ∧ i.millis = s.startMs.toInt ∧ Slot.atInstant? i = some s)
      ∧ (s < Slot.firstDated ∨ Slot.lastDated < s → s.instant? = none) := by
  constructor
  · intro hlo hhi
    obtain ⟨i, hi⟩ := Slot.exists_instant?_iff.mpr ⟨hlo, hhi⟩
    exact ⟨i, hi, Slot.agree_of_instant? hi⟩
  · intro hout
    refine Option.eq_none_iff_forall_ne_some.mpr fun i hi => ?_
    obtain ⟨hlo, hhi⟩ := Slot.exists_instant?_iff.mp ⟨i, hi⟩
    rw [Slot.le_iff] at hlo hhi
    rw [Slot.lt_iff, Slot.lt_iff] at hout
    omega

/-- The last slot within the calendar starts in its very last second, and the one after it at no
instant. -/
theorem clocks_agree_at_last_dated :
    (∃ i, Slot.lastDated.instant? = some i ∧ i.seconds = Time.lastSecond
        ∧ Slot.atInstant? i = some Slot.lastDated)
      ∧ (⟨684055004399⟩ : Slot).instant? = none := by
  obtain ⟨i, hi, -, -, hcurrent⟩ := (clocks_agree Slot.lastDated).1 (by decide) (by decide)
  refine ⟨⟨i, hi, ?_, hcurrent⟩, (clocks_agree ⟨684055004399⟩).2 (.inr (by decide))⟩
  have hseconds := (Slot.instant?_eq_some_iff.mp hi).1
  have hlast : Slot.lastDated.startInt = Time.lastSecond * 1000 := by decide
  omega

/-- **Not every slot in range starts at an instant**: the calendar ends before the one after
`Slot.lastDated`. -/
theorem slot_after_calendar : ¬ ∀ s : Slot, s.inRange = true →
    ∃ i, s.instant? = some i ∧ i.millis = s.startMs.toInt ∧ Slot.atInstant? i = some s := by
  intro h
  obtain ⟨i, hi, -⟩ := h ⟨684055004399⟩ (by decide)
  have hdated := (Slot.exists_instant?_iff.mp ⟨i, hi⟩).2
  exact absurd hdated (by decide)

end BidArchive.Chain
