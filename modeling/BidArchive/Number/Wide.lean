/-!
# Numbers of 256 bits

Bid values are counted in wei and take up to 256 bits. In text they may be written in base ten, or
behind one of `0x`, `0o`, `0b` (the letter in either case) in base sixteen, eight or two.
Underscores are skipped wherever digits may stand, no sign is accepted, and a text without any
digit spells zero.

Base ten is read from the left and its size is looked at after every nineteen digits and at the
end; the other bases are read from the right and their size is looked at with every digit. The
first thing found wrong is reported. Letters count by their bytes, so a character beyond ASCII is
named by one byte of its encoding.
-/

namespace BidArchive

/-- An unsigned number of 256 bits. -/
abbrev Wide := BitVec 256

namespace Wide

/-- Why a text spells no number of 256 bits. -/
inductive Fault
  /-- A byte that is no digit of the base. -/
  | badDigit (byte : UInt8)
  | tooLarge
deriving DecidableEq, Repr

/-- The wording of a fault. The byte is shown as the character of that number. -/
def Fault.message : Fault → String
  | .badDigit byte => "invalid digit: " ++ String.singleton (Char.ofNat byte.toNat)
  | .tooLarge => "the value is too large to fit the target type"

/-- The number in decimal. -/
def text (w : Wide) : String := w.toNat.repr

/-- How many digits of base ten are gathered before the size is looked at. -/
def chunkDigits : Nat := 19

/-- The value of a digit, 0 to 9 and then the letters in either case. -/
def digitValue? (byte : UInt8) : Option Nat :=
  let b := byte.toNat
  if 48 ≤ b ∧ b ≤ 57 then some (b - 48)
  else if 97 ≤ b ∧ b ≤ 122 then some (b - 97 + 10)
  else if 65 ≤ b ∧ b ≤ 90 then some (b - 65 + 10)
  else none

/-- The value of a digit of the given base. -/
def digitIn (base : Nat) (byte : UInt8) : Except Fault Nat :=
  match digitValue? byte with
  | some d => if d < base then .ok d else .error (.badDigit byte)
  | none => .error (.badDigit byte)

/-- The underscore. -/
def separator : UInt8 := 95

/-- One more than the largest number. -/
def bound : Nat := 1 <<< 256

/-- Takes a finished chunk behind the number read so far. -/
def append (value scale chunk : Nat) : Except Fault Nat :=
  if value * scale + chunk < bound then .ok (value * scale + chunk) else .error .tooLarge

/-- Reads base ten from the left. `chunk` holds the last `count` digits and `scale` is ten to the
power `count`. -/
def readTen (value scale chunk count : Nat) : List UInt8 → Except Fault Nat
  | [] => append value scale chunk
  | byte :: rest =>
    if byte = separator then readTen value scale chunk count rest
    else do
      let d ← digitIn 10 byte
      if count + 1 = chunkDigits then
        let value ← append value (scale * 10) (chunk * 10 + d)
        readTen value 1 0 0 rest
      else readTen value (scale * 10) (chunk * 10 + d) (count + 1) rest

/-- Reads a base from the right. `scale` is the weight of the next digit. -/
def readFromRight (base value scale : Nat) : List UInt8 → Except Fault Nat
  | [] => .ok value
  | byte :: rest =>
    if byte = separator then readFromRight base value scale rest
    else do
      let d ← digitIn base byte
      if d * scale < bound then readFromRight base (value + d * scale) (scale * base) rest
      else .error .tooLarge

/-- The base a prefix announces, and the bytes behind the prefix. -/
def splitBase : List UInt8 → Nat × List UInt8
  | 48 :: mark :: rest =>
    if mark = 120 ∨ mark = 88 then (16, rest)
    else if mark = 111 ∨ mark = 79 then (8, rest)
    else if mark = 98 ∨ mark = 66 then (2, rest)
    else (10, 48 :: mark :: rest)
  | bytes => (10, bytes)

/-- Reads a number from the bytes of a text. -/
def readBytes (bytes : List UInt8) : Except Fault Nat :=
  match splitBase bytes with
  | (10, digits) => readTen 0 1 0 0 digits
  | (base, digits) => readFromRight base 0 1 digits.reverse

/-- Reads a number of 256 bits. -/
def ofText (text : String) : Except Fault Wide :=
  (readBytes text.toUTF8.toList).map (BitVec.ofNat 256)

end Wide

end BidArchive
