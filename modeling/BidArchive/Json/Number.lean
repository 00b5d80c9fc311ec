import BidArchive.Number.Binary64

/-!
# Numbers of a JSON text

A number without fraction and exponent that fits a word of sixty-four bits is an integer; all
others are binary floating point numbers, and one that is too large for those makes the text
malformed. A floating point number keeps the leading digits that fit an unsigned word, counts the
others of the whole part as powers of ten, and ignores those of the fraction.
-/

namespace BidArchive.Json

/-- A number of a JSON text. -/
inductive Number
  /-- An integer that is not negative. -/
  | natural (n : Nat)
  /-- An integer below zero. -/
  | negative (n : Int)
  | real (isNegative : Bool) (magnitude : Binary64)
deriving DecidableEq, Repr

/-- The largest value of the digits that are kept. -/
def digitLimit : Nat := 0xffffffffffffffff

/-- The leading digits that fit, and the power of ten of the last of them. -/
structure Significand where
  digits : Nat
  power : Int

/-- Takes the digits of the whole part, counting those that no longer fit. -/
def Significand.whole (s : Significand) : List Nat → Significand
  | [] => s
  | d :: rest =>
    if s.digits * 10 + d ≤ digitLimit then whole ⟨s.digits * 10 + d, s.power⟩ rest
    else ⟨s.digits, s.power + (d :: rest).length⟩

/-- Takes the digits of the fraction up to the first that no longer fits. -/
def Significand.fraction (s : Significand) : List Nat → Significand
  | [] => s
  | d :: rest =>
    if s.digits * 10 + d ≤ digitLimit then fraction ⟨s.digits * 10 + d, s.power - 1⟩ rest
    else s

/-- The number that a sign, the digits of the whole part and, where they are given, the digits of
the fraction and an exponent spell. -/
def Number.ofDigits? (isNegative : Bool) (whole : List Nat) (fraction : Option (List Nat))
    (exponent : Option Int) : Option Number :=
  let s := Significand.whole ⟨0, 0⟩ whole
  let real (s : Significand) := (Binary64.ofParts? s.digits s.power).map (Number.real isNegative)
  match fraction, exponent with
  | none, none =>
    if s.power ≠ 0 then real s
    else if !isNegative then some (.natural s.digits)
    else if s.digits = 0 ∨ 0x8000000000000000 < s.digits then real s
    else some (.negative (-s.digits))
  | _, _ =>
    let s := s.fraction (fraction.getD [])
    real ⟨s.digits, s.power + exponent.getD 0⟩

end BidArchive.Json
