import BidArchive.Time.Calendar

/-!
# Instants

An instant is a moment of universal time between the first and the last day that the calendar
covers, years -262143 to 262142. It keeps whole seconds and a part below a second, which always
counts forward, also before 1970. A number of seconds outside the calendar names no instant.

Date times inside a leap second, whose part below a second counts on to two, are left out: no clock
shows them and no number of seconds names them.
-/

namespace BidArchive.Time

/-- The first second the calendar covers, the start of year -262143. -/
def firstSecond : Int := -8334601228800

/-- The last second the calendar covers, the end of year 262142. -/
def lastSecond : Int := 8210266876799

/-- A moment of universal time. -/
structure Instant where
  /-- Whole seconds since the start of 1970. -/
  seconds : Int
  /-- Nanoseconds past the whole second. -/
  nanos : Nat
  first_le : firstSecond ≤ seconds
  le_last : seconds ≤ lastSecond
  nanos_lt : nanos < 1000000000

namespace Instant

/-- The instant that is a whole number of seconds after the start of 1970. -/
def ofSeconds? (seconds : Int) : Option Instant :=
  if h : firstSecond ≤ seconds ∧ seconds ≤ lastSecond then
    some ⟨seconds, 0, h.1, h.2, by decide⟩
  else none

theorem ofSeconds?_eq_some_iff {seconds : Int} {i : Instant} :
    ofSeconds? seconds = some i ↔ i.seconds = seconds ∧ i.nanos = 0 := by
  unfold ofSeconds?
  constructor
  · intro h
    split at h
    · rw [← Option.some.inj h]
      exact ⟨rfl, rfl⟩
    · exact absurd h (by simp)
  · rintro ⟨rfl, hnanos⟩
    rw [dif_pos ⟨i.first_le, i.le_last⟩]
    cases i
    subst hnanos
    rfl

/-- Milliseconds since the start of 1970, rounded down. -/
def millis (i : Instant) : Int := i.seconds * 1000 + i.nanos / 1000000

/-- The day the instant falls in. -/
def date (i : Instant) : Date := Date.ofDay (i.seconds / 86400)

/-- Seconds since midnight. -/
def secondOfDay (i : Instant) : Nat := (i.seconds % 86400).toNat

/-- The hour, 0 to 23. -/
def hour (i : Instant) : Nat := i.secondOfDay / 3600

/-- The minute, 0 to 59. -/
def minute (i : Instant) : Nat := i.secondOfDay / 60 % 60

/-- The second, 0 to 59. -/
def second (i : Instant) : Nat := i.secondOfDay % 60

/-- Date and time of day with the offset of universal time, to the second. -/
def text (i : Instant) : String :=
  i.date.text ++ "T" ++ padded 2 i.hour ++ ":" ++ padded 2 i.minute ++ ":" ++ padded 2 i.second
    ++ "+00:00"

end Instant

end BidArchive.Time
