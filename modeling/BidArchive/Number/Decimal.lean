import BidArchive.Number.Word

/-!
# Decimal numerals

Relays and beacon nodes write integers as decimal text. A numeral is one or more ASCII digits,
with leading zeros allowed, after an optional sign; a minus sign only where negative numbers are
read at all. Nothing else is a numeral: no blanks, no separators, no sign alone.

A text is read from the left and refused at the first character at which it can no longer be a
numeral within bounds, so that of a bad character and an overflow the one that stands first wins.
-/

namespace BidArchive.Decimal

/-- Why a text is not a numeral within the bounds asked for. -/
inductive Fault
  | empty
  | badDigit
  | tooLarge
  | tooSmall
deriving DecidableEq, Repr

/-- The wording of a fault. -/
def Fault.message : Fault → String
  | .empty => "cannot parse integer from empty string"
  | .badDigit => "invalid digit found in string"
  | .tooLarge => "number too large to fit in target type"
  | .tooSmall => "number too small to fit in target type"

/-- The value of an ASCII digit. -/
def digit? (c : Char) : Option Nat :=
  if '0' ≤ c ∧ c ≤ '9' then some (c.toNat - '0'.toNat) else none

/-- Reads digits behind `acc` upwards, no further than `hi`. -/
def readUp (hi : Int) (acc : Int) : List Char → Except Fault Int
  | [] => .ok acc
  | c :: rest =>
    match digit? c with
    | none => .error .badDigit
    | some d =>
      if acc * 10 + d ≤ hi then readUp hi (acc * 10 + d) rest else .error .tooLarge

/-- Reads digits behind `acc` downwards, no further than `lo`. -/
def readDown (lo : Int) (acc : Int) : List Char → Except Fault Int
  | [] => .ok acc
  | c :: rest =>
    match digit? c with
    | none => .error .badDigit
    | some d =>
      if lo ≤ acc * 10 - d then readDown lo (acc * 10 - d) rest else .error .tooSmall

/-- Reads a numeral between `lo` and `hi`. A minus sign is allowed where `lo` is negative. -/
def read (lo hi : Int) : List Char → Except Fault Int
  | [] => .error .empty
  | ['+'] => .error .badDigit
  | ['-'] => .error .badDigit
  | '+' :: digits => readUp hi 0 digits
  | '-' :: digits => if lo < 0 then readDown lo 0 digits else .error .badDigit
  | digits => readUp hi 0 digits

/-- Reads a signed word. -/
def signed (text : String) : Except Fault Int64 :=
  (read Int64.minValue.toInt Int64.maxValue.toInt text.toList).map Int64.ofInt

/-- Reads an unsigned word. -/
def unsigned (text : String) : Except Fault UInt64 :=
  (read 0 0xffffffffffffffff text.toList).map fun n => UInt64.ofNat n.toNat

end BidArchive.Decimal
