/-!
# Binary floating point numbers

Fractions in JSON texts are read as binary floating point numbers of 64 bits. They carry no bid
data; they only show up in messages about a number that stands where none is expected. So the
type holds magnitudes alone, as `mantissa * 2 ^ exponent`, and all arithmetic is exact arithmetic
on fractions followed by one rounding to nearest, ties to even.

A magnitude prints with the fewest decimal digits that read back as the same number, positionally
and with at least one decimal.
-/

namespace BidArchive

/-- A finite magnitude, `mantissa * 2 ^ exponent`. The mantissa takes at most 53 bits and the
exponent is at least -1074. -/
structure Binary64 where
  mantissa : Nat
  exponent : Int
deriving DecidableEq, Repr

namespace Binary64

/-- A fraction scaled by a power of two, as numerator and denominator. -/
def scale (num den : Nat) (exponent : Int) : Nat × Nat :=
  if 0 ≤ exponent then (num <<< exponent.toNat, den)
  else (num, den <<< (-exponent).toNat)

/-- The whole number nearest to a fraction, a half going to the even neighbour. -/
def roundHalfEven (num den : Nat) : Nat :=
  let q := num / den
  let r := num % den
  if 2 * r < den then q
  else if den < 2 * r then q + 1
  else if q % 2 = 0 then q else q + 1

/-- The least mantissa, except next to zero: the greatest has 53 bits. -/
def leastMantissa : Nat := 1 <<< 52

/-- The exponent of the last place of the number nearest to a positive fraction. -/
def lastPlace (num den : Nat) : Int :=
  let guess : Int := (Nat.log2 num : Int) - Nat.log2 den - 52
  let (n, d) := scale num den (-guess)
  -- the guess is at most one too high
  let place := if n / d < leastMantissa then guess - 1 else guess
  max place (-1074)

/-- The magnitude nearest to a fraction, unless it is too large. -/
def nearest? (num den : Nat) : Option Binary64 :=
  if num = 0 then some ⟨0, -1074⟩
  else
    let place := lastPlace num den
    let (n, d) := scale num den (-place)
    let m := roundHalfEven n d
    let (m, place) := if m = 2 * leastMantissa then (leastMantissa, place + 1) else (m, place)
    if place ≤ 971 then some ⟨m, place⟩ else none

/-- The product, rounded. -/
def mul? (a b : Binary64) : Option Binary64 :=
  let (n, d) := scale (a.mantissa * b.mantissa) 1 (a.exponent + b.exponent)
  nearest? n d

/-- The quotient, rounded. -/
def div? (a b : Binary64) : Option Binary64 :=
  let (n, d) := scale a.mantissa b.mantissa (a.exponent - b.exponent)
  nearest? n d

/-- The magnitude nearest to a power of ten. -/
def tenTo? (k : Nat) : Option Binary64 := nearest? (Nat.pow 10 k) 1

/-- The largest power of ten that is scaled by at once. -/
def maxPower : Nat := 308

/-- Brings a magnitude down by more than `maxPower` powers of ten, in steps of `maxPower`, and
then by the rest. -/
def scaleDown? (steps : Nat) (f : Binary64) (powers : Nat) : Option Binary64 :=
  match steps with
  | 0 => some f
  | steps + 1 =>
    if powers ≤ maxPower then (tenTo? powers).bind f.div?
    else if f.mantissa = 0 then some f
    else do
      let unit ← tenTo? maxPower
      let f ← f.div? unit
      scaleDown? steps f (powers - maxPower)

/-- The magnitude `significand * 10 ^ exponent`, unless it is too large. The significand is
rounded first and scaled then, so the result can differ from the nearest one in the last place. -/
def ofParts? (significand : Nat) (exponent : Int) : Option Binary64 := do
  let f ← nearest? significand 1
  if exponent < 0 then scaleDown? ((-exponent).toNat / maxPower + 1) f (-exponent).toNat
  else if exponent.toNat ≤ maxPower then (tenTo? exponent.toNat).bind f.mul?
  else if f.mantissa = 0 then some f
  else none

/-- Decimal digits and the power of ten of the last one. -/
structure Digits where
  digits : Nat
  power : Int
deriving DecidableEq, Repr

/-- A fraction times a power of ten, as numerator and denominator. -/
def scaleTen (num den : Nat) (power : Int) : Nat × Nat :=
  if 0 ≤ power then (num * Nat.pow 10 power.toNat, den)
  else (num, den * Nat.pow 10 (-power).toNat)

/-- The point of the decimal grid with the given power that is nearest to the magnitude among
those that read back as it. -/
def onGrid? (f : Binary64) (power : Int) : Option Digits :=
  -- everything in quarters of the last place
  let quarters (n : Nat) : Nat × Nat :=
    let (a, b) := scale n 1 (f.exponent - 2)
    scaleTen a b (-power)
  let lowGap := if f.mantissa = leastMantissa ∧ -1074 < f.exponent then 1 else 2
  let (v, d) := quarters (4 * f.mantissa)
  let (lo, dLo) := quarters (4 * f.mantissa - lowGap)
  let (hi, dHi) := quarters (4 * f.mantissa + 2)
  let closed := f.mantissa % 2 == 0
  let inside (n : Nat) : Bool :=
    if closed then decide (lo ≤ n * dLo) && decide (n * dHi ≤ hi)
    else decide (lo < n * dLo) && decide (n * dHi < hi)
  let below := v / d
  let near := roundHalfEven v d
  let other := if near = below then below + 1 else below
  if inside near then some ⟨near, power⟩
  else if inside other then some ⟨other, power⟩
  else none

/-- The power of ten of the first digit, or one less. -/
def firstPower (f : Binary64) : Int :=
  -- 30103 / 100000 is a little above the logarithm of two
  let bits : Int := Nat.log2 f.mantissa + f.exponent
  bits * 30103 / 100000 + 1

/-- The fewest digits that read back as a positive magnitude, trying `tries` grids from the one
of the given power downwards. -/
def shortest (f : Binary64) (power : Int) : Nat → Digits
  | 0 => ⟨0, 0⟩
  | tries + 1 =>
    match onGrid? f power with
    | some ⟨0, _⟩ | none => shortest f (power - 1) tries
    | some digits => digits

/-- The digits positionally, with a point and at least one decimal. -/
def Digits.text (x : Digits) : String :=
  if 0 ≤ x.power then Nat.repr (x.digits * Nat.pow 10 x.power.toNat) ++ ".0"
  else
    let places := (-x.power).toNat
    let unit := Nat.pow 10 places
    let fraction := Nat.repr (x.digits % unit)
    Nat.repr (x.digits / unit) ++ "."
      ++ String.ofList (List.replicate (places - fraction.length) '0') ++ fraction

/-- The magnitude in the fewest digits that read back as it. -/
def text (f : Binary64) : String :=
  if f.mantissa = 0 then "0.0"
  else (shortest f f.firstPower 20).text

end Binary64

end BidArchive
