/-!
# Hexadecimal

Bytes written as two lower case digits each, and read back with digits of either case.
-/

namespace BidArchive.Text

/-- The lower case digit of a value below sixteen. -/
def hexDigit (n : Nat) : Char :=
  if n < 10 then Char.ofNat (48 + n) else Char.ofNat (87 + n)

/-- The two digits of a byte. -/
def hexByte (b : UInt8) : List Char := [hexDigit (b.toNat / 16), hexDigit (b.toNat % 16)]

/-- The bytes in hexadecimal. -/
def hexChars (bytes : List UInt8) : List Char := bytes.flatMap hexByte

/-- The bytes in hexadecimal behind `0x`. -/
def prefixedHex (bytes : List UInt8) : String := String.ofList (['0', 'x'] ++ hexChars bytes)

/-- The value of a hexadecimal digit of either case. -/
def hexValue? (c : Char) : Option Nat :=
  if '0' ≤ c ∧ c ≤ '9' then some (c.toNat - 48)
  else if 'a' ≤ c ∧ c ≤ 'f' then some (c.toNat - 87)
  else if 'A' ≤ c ∧ c ≤ 'F' then some (c.toNat - 55)
  else none

/-- The bytes that pairs of digits spell. -/
def bytesOfHex? : List Char → Option (List UInt8)
  | [] => some []
  | [_] => none
  | a :: b :: rest => do
    let hi ← hexValue? a
    let lo ← hexValue? b
    let bytes ← bytesOfHex? rest
    return UInt8.ofNat (hi * 16 + lo) :: bytes

end BidArchive.Text
