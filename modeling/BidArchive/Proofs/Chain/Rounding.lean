import BidArchive.Proofs.Chain.Starts

/-!
# Rounding down to slots

The start of a slot and the slot in progress are two sides of one thing: a slot has begun by some
moment if and only if it does not come after the one in progress then. All else follows. The slot in
progress never goes back, it changes at the starts of slots and nowhere else, and it is the same one
for the twelve seconds from its start. This holds of moments given in milliseconds and of instants
of the calendar, however finely they are told, before genesis as well as after.
-/

namespace BidArchive.Time

/-- Nanoseconds since the start of 1970. -/
def Instant.totalNanos (i : Instant) : Int := i.seconds * 1000000000 + i.nanos

theorem Instant.millis_eq (i : Instant) : i.millis = i.totalNanos / 1000000 := by
  have hnanos := i.nanos_lt
  unfold millis totalNanos
  omega

end BidArchive.Time

namespace BidArchive.Chain

open Time (Instant)

namespace Slot

variable {s t : Slot} {ms : Int64} {i : Instant}

/-- A slot that starts within the words of milliseconds has that start. -/
theorem isSome_start? {early late : Int64} (hlo : early.toInt ≤ s.startInt)
    (hhi : s.startInt ≤ late.toInt) : s.start?.isSome := by
  have hmin := early.le_toInt
  have hmax := late.toInt_lt
  exact isSome_start?_iff.mpr ⟨by omega, by omega⟩

/-- A start that fits a word is not clamped. -/
theorem toInt_startMs_of_isSome (h : s.start?.isSome) : s.startMs.toInt = s.startInt := by
  obtain ⟨ms, hms⟩ := Option.isSome_iff_exists.mp h
  rw [startMs_of_start? hms]
  exact start?_eq_some_iff.mp hms

/-- **A slot has begun if and only if it does not come after the one in progress.** -/
theorem startInt_le_iff (h : at? ms = some t) : s.startInt ≤ ms.toInt ↔ s ≤ t := by
  have hbegun := le_of_at? h
  rw [le_iff]
  unfold startInt at hbegun ⊢
  omega

end Slot

/-- Moments of some kind, `perMs` of whose units make a millisecond, are rounded down to slots. -/
structure RoundsDown {α : Type} (perMs : Int) (moment : α → Int) (current? : α → Option Slot) :
    Prop where
  /-- A slot has begun if and only if it is the one in progress or lies before it. -/
  start_le_iff : ∀ {a s t}, current? a = some t → s.start?.isSome →
    (s.startMs.toInt * perMs ≤ moment a ↔ s ≤ t)
  monotone : ∀ {a b s t}, current? a = some s → current? b = some t → moment a ≤ moment b → s ≤ t
  /-- The slot in progress changes where a slot starts and nowhere else. -/
  changes_iff : ∀ {a b s t}, current? a = some s → current? b = some t → moment a ≤ moment b →
    (s ≠ t ↔ ∃ u : Slot, u.start?.isSome ∧ moment a < u.startMs.toInt * perMs
      ∧ u.startMs.toInt * perMs ≤ moment b)
  /-- A slot is in progress for the twelve seconds from its start. -/
  within : ∀ {a s}, (current? a).isSome → s.start?.isSome →
    s.startMs.toInt * perMs ≤ moment a → moment a < (s.startMs.toInt + 12000) * perMs →
    current? a = some s

/-- Whatever rounds moments down to a word of milliseconds first rounds them down to slots. -/
theorem roundsDown_of_millis {α : Type} {perMs : Int} {moment : α → Int}
    {current? : α → Option Slot} (hpos : 0 < perMs)
    (h : ∀ {a t}, current? a = some t →
      ∃ ms : Int64, ms.toInt = moment a / perMs ∧ Slot.at? ms = some t) :
    RoundsDown perMs moment current? := by
  -- starts are whole milliseconds, so they compare with a moment as with its millisecond
  have hbegun : ∀ {a s t}, current? a = some t → (s.startInt * perMs ≤ moment a ↔ s ≤ t) := by
    intro a s t ha
    obtain ⟨ms, hms, hat⟩ := h ha
    rw [← Int.le_ediv_iff_mul_le hpos, ← hms, Slot.startInt_le_iff hat]
  have hself : ∀ {a t}, current? a = some t → t.startInt * perMs ≤ moment a :=
    fun ha => (hbegun ha).mpr (Int.le_refl _)
  have hmonotone : ∀ {a b s t}, current? a = some s → current? b = some t → moment a ≤ moment b →
      s ≤ t :=
    fun ha hb hab => (hbegun hb).mp (Int.le_trans (hself ha) hab)
  constructor
  case start_le_iff =>
    intro a s t ha hs
    rw [Slot.toInt_startMs_of_isSome hs, hbegun ha]
  case monotone => exact hmonotone
  case changes_iff =>
    intro a b s t ha hb hab
    constructor
    · intro hne
      have hbehind : ¬ t ≤ s := fun hts =>
        hne (Slot.eq_iff.mpr (Int.le_antisymm (hmonotone ha hb hab) hts))
      -- the later slot starts between the two moments, and so its start fits a word as they do
      have hsome : t.start?.isSome := by
        obtain ⟨early, -, hearly⟩ := h ha
        obtain ⟨late, -, hlate⟩ := h hb
        have hlo : early.toInt ≤ t.startInt :=
          Int.le_of_not_le (mt (Slot.startInt_le_iff hearly).mp hbehind)
        have hhi : t.startInt ≤ late.toInt := (Slot.startInt_le_iff hlate).mpr (Int.le_refl _)
        exact Slot.isSome_start? hlo hhi
      refine ⟨t, hsome, ?_⟩
      rw [Slot.toInt_startMs_of_isSome hsome]
      exact ⟨Int.not_le.mp (mt (hbegun ha).mp hbehind), hself hb⟩
    · rintro ⟨u, hu, hbefore, hafter⟩ rfl
      rw [Slot.toInt_startMs_of_isSome hu] at hbefore hafter
      exact absurd ((hbegun ha).mpr ((hbegun hb).mp hafter)) (Int.not_le.mpr hbefore)
  case within =>
    intro a s ha hs hstart hend
    obtain ⟨t, ht⟩ := Option.isSome_iff_exists.mp ha
    rw [Slot.toInt_startMs_of_isSome hs] at hstart hend
    have hst : s ≤ t := (hbegun ht).mp hstart
    have hstarts : t.startInt < s.startInt + 12000 :=
      Int.lt_of_mul_lt_mul_right (Int.lt_of_le_of_lt (hself ht) hend) (Int.le_of_lt hpos)
    have hsame : t.number.toInt = s.number.toInt := by
      rw [Slot.le_iff] at hst
      unfold Slot.startInt at hstarts
      omega
    rw [ht, Slot.eq_iff.mpr hsame]

/--
**Moments are rounded down to slots.**

There is a slot in progress at just those words of milliseconds whose distance to genesis fits a
word, and at every instant of the calendar. At such words as at instants, told to the nanosecond, a
slot has begun if and only if it does not come after the one in progress, and that one never goes
back, changes exactly where a slot starts and stays for twelve seconds. In particular every slot in
range is the one in progress when it starts.
-/
theorem moments_round_down_to_slots :
    (∀ ms : Int64, (Slot.at? ms).isSome
        ↔ -0x8000000000000000 ≤ ms.toInt - genesisMs.toInt
          ∧ ms.toInt - genesisMs.toInt < 0x8000000000000000)
      ∧ RoundsDown 1 Int64.toInt Slot.at?
      ∧ (∀ s : Slot, s.inRange = true → s.start?.isSome ∧ Slot.at? s.startMs = some s)
      ∧ (∀ i : Instant, (Slot.atInstant? i).isSome)
      ∧ RoundsDown 1000000 Instant.totalNanos Slot.atInstant? := by
  have hwords : RoundsDown 1 Int64.toInt Slot.at? :=
    roundsDown_of_millis (by decide) fun {ms t} h => ⟨ms, (Int.ediv_one _).symm, h⟩
  refine ⟨fun _ => Slot.isSome_at?_iff, hwords, fun s hs => ?_, fun i => ?_,
    roundsDown_of_millis (by decide) fun {i t} h => ?_⟩
  · obtain ⟨ms, hms, -⟩ := Slot.exists_start hs
    have hsome : s.start?.isSome := Option.isSome_iff_exists.mpr ⟨ms, hms⟩
    have hstart := Slot.toInt_startMs_of_isSome hsome
    have hgenesis : genesisMs.toInt = 1606824023000 := by decide
    have hhi := s.startMs.toInt_lt
    have hnear : (Slot.at? s.startMs).isSome := by
      obtain ⟨hlo, -⟩ := Slot.inRange_iff.mp hs
      unfold Slot.startInt at hstart
      exact Slot.isSome_at?_iff.mpr (by omega)
    exact ⟨hsome, hwords.within hnear hsome (by omega) (by omega)⟩
  · obtain ⟨_, t, -, -, ht⟩ := Slot.exists_atInstant? i
    exact Option.isSome_iff_exists.mpr ⟨t, ht⟩
  · obtain ⟨ms, u, hms, hat, hu⟩ := Slot.exists_atInstant? i
    rw [h] at hu
    obtain rfl := Option.some.inj hu
    exact ⟨ms, hms.trans (Instant.millis_eq i), hat⟩

/-- Half a millisecond before genesis. -/
def beforeGenesis : Instant where
  seconds := 1606824022
  nanos := 999500000
  first_le := by decide
  le_last := by decide
  nanos_lt := by decide

/-- The slot before genesis is in progress up to its last millisecond and beyond. -/
theorem slot_before_genesis : Slot.at? 1606824022999 = some ⟨-1⟩
    ∧ Slot.atInstant? beforeGenesis = some ⟨-1⟩ := by
  obtain ⟨hnear, hwords, -, hcovered, hinstants⟩ := moments_round_down_to_slots
  constructor
  · exact hwords.within ((hnear _).mpr (by decide)) (by decide) (by decide) (by decide)
  · exact hinstants.within (hcovered _) (by decide) (by decide) (by decide)

end BidArchive.Chain
