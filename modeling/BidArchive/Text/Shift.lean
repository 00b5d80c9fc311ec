/-!
# Shifted runs

In most alphabets the cases of a letter lie at a fixed distance from each other, for whole runs of
letters or for every second one of a run. A mapping between such characters is given by its runs.
-/

namespace BidArchive.Text

/-- Every `step`-th code point from `first` to `last` is mapped to the one `shift` further. -/
structure ShiftRun where
  first : Nat
  last : Nat
  step : Nat
  shift : Int

/-- The character lies in the run. -/
def ShiftRun.has (run : ShiftRun) (c : Char) : Bool :=
  decide (run.first ≤ c.toNat) && decide (c.toNat ≤ run.last)
    && (c.toNat - run.first) % run.step == 0

/-- What the first run that a character lies in maps it to. -/
def shifted? (runs : List ShiftRun) (c : Char) : Option Char :=
  (runs.find? (·.has c)).map fun run => Char.ofNat ((c.toNat : Int) + run.shift).toNat

end BidArchive.Text
