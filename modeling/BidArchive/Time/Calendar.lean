/-!
# The calendar

Days are counted from 1 January 1970 and named by the Gregorian calendar, carried on before its
introduction and before year 1. The year is taken to begin in March, so that the leap day comes
last and the month lengths follow one linear rule; `Date.ofDay` and `Date.day` are inverse to
each other through that rule.

Years of up to four digits are written with four digits. All others carry a sign.
-/

namespace BidArchive.Time

/-- Days in the 400 years after which the calendar repeats. -/
def eraDays : Int := 146097

/-- A day by its name. -/
structure Date where
  year : Int
  month : Int
  dayOfMonth : Int
deriving DecidableEq, Repr

namespace Date

/-- The date of the day that is `n` days after 1 January 1970. -/
def ofDay (n : Int) : Date :=
  -- 1 March of year 0 is day 0 of the first era
  let shifted := n + 719468
  let era := shifted / eraDays
  let dayOfEra := shifted % eraDays
  let yearOfEra := (dayOfEra - dayOfEra / 1460 + dayOfEra / 36524 - dayOfEra / 146096) / 365
  let dayOfYear := dayOfEra - (365 * yearOfEra + yearOfEra / 4 - yearOfEra / 100)
  let marchMonth := (5 * dayOfYear + 2) / 153
  let month := if marchMonth < 10 then marchMonth + 3 else marchMonth - 9
  { year := yearOfEra + era * 400 + (if month ≤ 2 then 1 else 0)
    month := month
    dayOfMonth := dayOfYear - (153 * marchMonth + 2) / 5 + 1 }

/-- How many days after 1 January 1970 the date is. -/
def day (d : Date) : Int :=
  let marchYear := if d.month ≤ 2 then d.year - 1 else d.year
  let marchMonth := if d.month > 2 then d.month - 3 else d.month + 9
  let yearOfEra := marchYear % 400
  let dayOfYear := (153 * marchMonth + 2) / 5 + d.dayOfMonth - 1
  let dayOfEra := yearOfEra * 365 + yearOfEra / 4 - yearOfEra / 100 + dayOfYear
  marchYear / 400 * eraDays + dayOfEra - 719468

end Date

/-- `n` with zeros in front, at least `width` digits. -/
def padded (width n : Nat) : String :=
  let digits := Nat.repr n
  String.ofList (List.replicate (width - digits.length) '0') ++ digits

/-- Four digits, or a sign and at least four digits where four digits alone would not do. -/
def yearText (year : Int) : String :=
  if 0 ≤ year ∧ year ≤ 9999 then padded 4 year.toNat
  else if year < 0 then "-" ++ padded 4 year.natAbs
  else "+" ++ padded 4 year.toNat

/-- The date as year, month and day joined by hyphens. -/
def Date.text (d : Date) : String :=
  yearText d.year ++ "-" ++ padded 2 d.month.toNat ++ "-" ++ padded 2 d.dayOfMonth.toNat

end BidArchive.Time
