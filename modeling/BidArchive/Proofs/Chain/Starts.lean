import BidArchive.Chain.Epoch

/-!
# When slots start

The start of a slot is what the integers say, if it fits a word; and it fits for every
slot in range, with a few seconds to spare. The slot after one in range and the epoch
after its epoch have numbers too. There is a slot in progress at every instant of the
calendar.
-/

namespace BidArchive.Time

/-- The calendar covers only a small part of the words of milliseconds. -/
theorem Instant.millis_bounds (i : Instant) :
    -8334601228800000 ≤ i.millis ∧ i.millis < 8210266876800000 := by
  have hfirst := i.first_le
  have hlast := i.le_last
  have hnanos := i.nanos_lt
  unfold firstSecond at hfirst
  unfold lastSecond at hlast
  unfold millis
  omega

end BidArchive.Time

namespace BidArchive.Chain

open Time (Instant)

theorem Epoch.later?_eq_some_iff {e t : Epoch} {count : Int64} :
    e.later? count = some t ↔ t.number.toInt = e.number.toInt + count.toInt := by
  unfold later?
  rw [Option.map_eq_some_iff]
  constructor
  · rintro ⟨w, hw, rfl⟩
    exact Word.add?_eq_some_iff.mp hw
  · intro h
    exact ⟨t.number, Word.add?_eq_some_iff.mpr h, rfl⟩

namespace Slot

variable {s t : Slot} {ms count : Int64}

theorem later?_eq_some_iff :
    s.later? count = some t ↔ t.number.toInt = s.number.toInt + count.toInt := by
  unfold later?
  rw [Option.map_eq_some_iff]
  constructor
  · rintro ⟨w, hw, rfl⟩
    exact Word.add?_eq_some_iff.mp hw
  · intro h
    exact ⟨t.number, Word.add?_eq_some_iff.mpr h, rfl⟩

theorem inRange_iff :
    s.inRange = true ↔ 0 ≤ s.number.toInt ∧ s.number.toInt ≤ 768614202502562 := by
  unfold inRange
  rw [Bool.and_eq_true, decide_eq_true_iff, decide_eq_true_iff]
  exact Iff.rfl

/-- **The start of a slot**: where it fits a word, nothing on the way to it overflows. -/
theorem start?_eq_some_iff :
    s.start? = some ms ↔ ms.toInt = (s.number.toInt * 12 + 1606824023) * 1000 := by
  have hthousand : (1000 : Int64).toInt = 1000 := by decide
  unfold start?
  simp only [Option.bind_eq_bind, Option.bind_eq_some_iff, Word.mul?_eq_some_iff,
    Word.add?_eq_some_iff, toInt_slotSeconds, toInt_genesisSeconds, hthousand]
  constructor
  · rintro ⟨a, ha, b, hb, hms⟩
    rw [hms, hb, ha]
  · intro hms
    -- what comes on the way is no further from zero than the start itself
    have hlo := ms.le_toInt
    have hhi := ms.toInt_lt
    obtain ⟨a, ha⟩ := Word.exists_toInt_eq (n := s.number.toInt * 12) (by omega) (by omega)
    obtain ⟨b, hb⟩ := Word.exists_toInt_eq (n := a.toInt + 1606824023) (by omega) (by omega)
    exact ⟨a, ha, b, hb, by rw [hms, hb, ha]⟩

theorem startMs_of_start? (h : s.start? = some ms) : s.startMs = ms := by
  unfold startMs
  rw [h]

/-- The start of the slot in milliseconds since 1970, whether it fits a word or not. -/
def startInt (s : Slot) : Int := (s.number.toInt * 12 + 1606824023) * 1000

theorem startInt_lt_iff : s.startInt < t.startInt ↔ s < t := by
  unfold startInt
  rw [lt_iff]
  omega

/-- A start fits a word if and only if the integer does. -/
theorem isSome_start?_iff : s.start?.isSome
    ↔ -0x8000000000000000 ≤ s.startInt ∧ s.startInt < 0x8000000000000000 := by
  rw [Option.isSome_iff_exists]
  constructor
  · rintro ⟨ms, hms⟩
    rw [startInt, ← start?_eq_some_iff.mp hms]
    exact ⟨ms.le_toInt, ms.toInt_lt⟩
  · rintro ⟨hlo, hhi⟩
    obtain ⟨ms, hms⟩ := Word.exists_toInt_eq hlo hhi
    exact ⟨ms, start?_eq_some_iff.mpr hms⟩

/-- **A clamped start** is the start itself or the nearest word. -/
theorem startMs_clamped (s : Slot) :
    s.startMs.toInt = max (-0x8000000000000000) (min s.startInt 0x7fffffffffffffff) := by
  unfold startMs
  cases hs : s.start? with
  | some ms =>
      have hms : ms.toInt = s.startInt := start?_eq_some_iff.mp hs
      have hlo := ms.le_toInt
      have hhi := ms.toInt_lt
      dsimp only
      omega
  | none =>
      have hout := mt isSome_start?_iff.mpr (by rw [hs]; exact Bool.false_ne_true)
      unfold startInt at hout ⊢
      dsimp only
      -- starts are too early for negative numbers only, and too late for others only
      split
      · rw [Int64.toInt_minValue]
        omega
      · rw [Int64.toInt_maxValue]
        omega

/-- A start that is not too early for a word is clamped from above only. -/
theorem toInt_startMs (h : -0x8000000000000000 ≤ s.startInt) :
    s.startMs.toInt = min s.startInt 0x7fffffffffffffff := by
  rw [startMs_clamped]
  omega

/-- **The slot in progress** at a moment has begun, and the next one has not. -/
theorem le_of_at? (h : at? ms = some s) :
    s.startInt ≤ ms.toInt ∧ ms.toInt < s.startInt + 12000 := by
  unfold at? at h
  obtain ⟨w, hw, hs⟩ := Option.bind_eq_some_iff.mp h
  have hlo := w.le_toInt
  have hhi := w.toInt_lt
  have hnumber : s.number.toInt = w.toInt / 12000 := by
    rw [← Option.some.inj hs]
    exact Int64.toInt_ofInt_of_le (by omega) (by omega)
  rw [Word.sub?_eq_some_iff, toInt_genesisMs] at hw
  unfold startInt
  omega

/-- There is a slot in progress at every moment whose distance to genesis fits a word. -/
theorem isSome_at?_iff : (at? ms).isSome
    ↔ -0x8000000000000000 ≤ ms.toInt - genesisMs.toInt
      ∧ ms.toInt - genesisMs.toInt < 0x8000000000000000 := by
  have hmap : (at? ms).isSome = (Word.sub? ms genesisMs).isSome := by
    unfold at?
    cases Word.sub? ms genesisMs <;> rfl
  rw [hmap, Option.isSome_iff_ne_none, ne_eq, Word.sub?, Word.signed?_eq_none_iff]
  omega

/-- Every instant of the calendar is near enough to genesis. -/
theorem exists_atInstant? (i : Instant) :
    ∃ ms t, ms.toInt = i.millis ∧ at? ms = some t ∧ atInstant? i = some t := by
  have hbounds := i.millis_bounds
  obtain ⟨ms, hms⟩ := Word.exists_toInt_eq (n := i.millis) (by omega) (by omega)
  have hnear : (at? ms).isSome := isSome_at?_iff.mpr (by rw [toInt_genesisMs]; omega)
  obtain ⟨t, ht⟩ := Option.isSome_iff_exists.mp hnear
  refine ⟨ms, t, hms, ht, ?_⟩
  unfold atInstant?
  rw [Word.signed?_eq_some_iff.mpr hms]
  exact ht

/-- **A slot in range starts at a moment that fits a word, and so do the seconds behind it.** -/
theorem exists_start (h : s.inRange = true) :
    ∃ ms, s.start? = some ms ∧ ms.toInt + 8807 < 0x8000000000000000 := by
  obtain ⟨hlo, hhi⟩ := inRange_iff.mp h
  obtain ⟨ms, hms⟩ := Word.exists_toInt_eq (n := (s.number.toInt * 12 + 1606824023) * 1000)
    (by omega) (by omega)
  exact ⟨ms, start?_eq_some_iff.mpr hms, by omega⟩

/-- The slots in range are those from genesis whose start fits a word. -/
theorem inRange_iff_isSome_start? :
    s.inRange = true ↔ 0 ≤ s.number.toInt ∧ s.start?.isSome := by
  rw [inRange_iff, isSome_start?_iff]
  unfold startInt
  omega

/-- The slot after one in range has a number. -/
theorem exists_next (h : s.inRange = true) : ∃ t, s.later? 1 = some t := by
  obtain ⟨hlo, hhi⟩ := inRange_iff.mp h
  have hone : (1 : Int64).toInt = 1 := by decide
  obtain ⟨w, hw⟩ := Word.exists_toInt_eq (n := s.number.toInt + 1) (by omega) (by omega)
  exact ⟨⟨w⟩, later?_eq_some_iff.mpr (by rw [hone]; exact hw)⟩

theorem toInt_epoch (s : Slot) : s.epoch.number.toInt = s.number.toInt / 32 := by
  have hlo := s.number.le_toInt
  have hhi := s.number.toInt_lt
  exact Int64.toInt_ofInt_of_le (by omega) (by omega)

/-- So has the epoch after that of a slot in range. -/
theorem exists_next_epoch (h : s.inRange = true) : ∃ e, s.epoch.later? 1 = some e := by
  obtain ⟨hlo, hhi⟩ := inRange_iff.mp h
  have hone : (1 : Int64).toInt = 1 := by decide
  obtain ⟨w, hw⟩ := Word.exists_toInt_eq (n := s.number.toInt / 32 + 1) (by omega) (by omega)
  exact ⟨⟨w⟩, Epoch.later?_eq_some_iff.mpr (by rw [hone, toInt_epoch]; exact hw)⟩

/-- **The slot after one** belongs to the same epoch or begins the next. -/
theorem epoch_of_later? (h : s.later? 1 = some t) :
    t.epoch = s.epoch ∨ s.epoch.later? 1 = some t.epoch := by
  have hone : (1 : Int64).toInt = 1 := by decide
  have hnumber := later?_eq_some_iff.mp h
  have hepoch := toInt_epoch s
  have hepoch' := toInt_epoch t
  rw [hone] at hnumber
  by_cases hsame : t.number.toInt / 32 = s.number.toInt / 32
  · refine Or.inl (congrArg Epoch.mk (Int64.toInt.inj ?_))
    exact hepoch'.trans (hsame.trans hepoch.symm)
  · refine Or.inr (Epoch.later?_eq_some_iff.mpr ?_)
    rw [hone, hepoch, hepoch']
    omega

end Slot

end BidArchive.Chain
