import BidArchive.Number.Word
import BidArchive.Time.Instant

/-!
# Slots

Time on the beacon chain is cut into slots of twelve seconds, counted from genesis. A slot number
is a signed word, so that the slots around genesis need no care; relays report slots as they
please, and only those from 0 to `Slot.last`, the last slot whose start fits a word of
milliseconds, are taken for real.

A slot has two clocks: its start in milliseconds (`start?`, clamped in `startMs`) and its start as
an instant of the calendar (`instant?`). The slot in progress at a moment is found by rounding
down (`at?`), also before genesis.
-/

namespace BidArchive.Chain

open BidArchive.Time

/-- When the chain began, in seconds since the start of 1970. -/
def genesisSeconds : Int64 := 1606824023

/-- When the chain began, in milliseconds since the start of 1970. -/
def genesisMs : Int64 := 1606824023000

/-- How long a slot lasts, in seconds. -/
def slotSeconds : Int64 := 12

/-- How many slots make an epoch. -/
def slotsPerEpoch : Int64 := 32

theorem toInt_genesisSeconds : genesisSeconds.toInt = 1606824023 := by decide

theorem toInt_genesisMs : genesisMs.toInt = 1606824023000 := by decide

theorem toInt_slotSeconds : slotSeconds.toInt = 12 := by decide

/-- A slot by its number. -/
structure Slot where
  number : Int64
deriving DecidableEq, Repr

namespace Slot

instance : LT Slot := ⟨fun a b => a.number.toInt < b.number.toInt⟩
instance : LE Slot := ⟨fun a b => a.number.toInt ≤ b.number.toInt⟩

instance (a b : Slot) : Decidable (a < b) :=
  inferInstanceAs (Decidable (a.number.toInt < b.number.toInt))
instance (a b : Slot) : Decidable (a ≤ b) :=
  inferInstanceAs (Decidable (a.number.toInt ≤ b.number.toInt))

theorem lt_iff {a b : Slot} : a < b ↔ a.number.toInt < b.number.toInt := Iff.rfl

theorem le_iff {a b : Slot} : a ≤ b ↔ a.number.toInt ≤ b.number.toInt := Iff.rfl

theorem eq_iff {a b : Slot} : a = b ↔ a.number.toInt = b.number.toInt := by
  constructor
  · rintro rfl; rfl
  · intro h
    cases a; cases b
    exact congrArg Slot.mk (Int64.toInt.inj h)

/-- The number in decimal. -/
def text (s : Slot) : String := s.number.toInt.repr

/-- The start of the slot in milliseconds since 1970, if it fits a word. -/
def start? (s : Slot) : Option Int64 := do
  let sinceGenesis ← Word.mul? s.number slotSeconds
  let seconds ← Word.add? sinceGenesis genesisSeconds
  Word.mul? seconds 1000

/-- The start of the slot in milliseconds since 1970, clamped to the word's range. -/
def startMs (s : Slot) : Int64 :=
  match s.start? with
  | some ms => ms
  | none => if s.number.toInt < 0 then Int64.minValue else Int64.maxValue

/-- The last slot whose start fits a word of milliseconds. -/
def last : Slot := ⟨768614202502562⟩

/-- Only the slots from genesis to `last` are taken for real. -/
def inRange (s : Slot) : Bool :=
  decide (0 ≤ s.number.toInt) && decide (s.number.toInt ≤ last.number.toInt)

/-- The slot in progress at a moment given in milliseconds. There is none when the distance of the
moment to genesis does not fit a word. -/
def at? (ms : Int64) : Option Slot := do
  let sinceGenesis ← Word.sub? ms genesisMs
  return ⟨Int64.ofInt (sinceGenesis.toInt / 12000)⟩

/-- The slot `count` slots later, or earlier for a negative count. -/
def later? (s : Slot) (count : Int64) : Option Slot :=
  (Word.add? s.number count).map Slot.mk

/-- The slot `count` slots earlier. -/
def earlier? (s : Slot) (count : Int64) : Option Slot :=
  (Word.sub? s.number count).map Slot.mk

theorem earlier?_eq_some_iff {s t : Slot} {count : Int64} :
    s.earlier? count = some t ↔ t.number.toInt = s.number.toInt - count.toInt := by
  unfold earlier?
  rw [Option.map_eq_some_iff]
  constructor
  · rintro ⟨w, hw, rfl⟩
    exact Word.sub?_eq_some_iff.mp hw
  · intro h
    exact ⟨t.number, Word.sub?_eq_some_iff.mpr h, rfl⟩

/-- The start of the slot as an instant, if the calendar covers it. -/
def instant? (s : Slot) : Option Instant := do
  let sinceGenesis ← Word.mul? s.number slotSeconds
  Instant.ofSeconds? (genesisSeconds.toInt + sinceGenesis.toInt)

/-- The slot in progress at an instant. -/
def atInstant? (i : Instant) : Option Slot := do
  let ms ← Word.signed? i.millis
  at? ms

end Slot

end BidArchive.Chain
