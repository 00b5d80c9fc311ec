import BidArchive.Text.Hex
import BidArchive.Text.Utf8

/-!
# Percent encoding

A byte that may not stand as it is in some part of a URL is written as a percent sign and two
hexadecimal digits. Which ASCII characters are written so depends on the part; controls and what
lies beyond ASCII always are.
-/

namespace BidArchive.Url

/-- The upper case hexadecimal digit of a value below sixteen. -/
def upperDigit (n : Nat) : Char := if n < 10 then Char.ofNat (48 + n) else Char.ofNat (55 + n)

/-- A byte behind a percent sign. -/
def escaped (b : UInt8) : List Char :=
  ['%', upperDigit (b.toNat / 16), upperDigit (b.toNat % 16)]

/-- The character lies beyond ASCII or is a control. -/
def isControl (c : Char) : Bool := decide (c.toNat < 0x20) || decide (0x7e < c.toNat)

/-- Writes a text with the bytes of all controls and of the characters of `set` escaped. -/
def encoded (set : List Char) (cs : List Char) : List Char :=
  cs.flatMap fun c =>
    if isControl c || set.contains c then (String.utf8EncodeChar c).flatMap escaped else [c]

/-- What is escaped in a fragment. -/
def fragmentSet : List Char := [' ', '"', '<', '>', Char.ofNat 0x60]

/-- What is escaped in a path. -/
def pathSet : List Char := fragmentSet ++ ['#', '?', '\x7b', '\x7d']

/-- What is escaped in a name or password. -/
def userSet : List Char := pathSet ++ ['/', ':', ';', '=', '@', '[', '\\', ']', '^', '|']

/-- What is escaped in a query. -/
def querySet : List Char := [' ', '"', '#', '<', '>']

/-- What is escaped in a query of a special scheme. -/
def specialQuerySet : List Char := querySet ++ [Char.ofNat 0x27]

/-- What is escaped in a value of a query: all but ASCII letters and digits. -/
def encodedValue (cs : List Char) : List Char :=
  cs.flatMap fun c =>
    if c.isAlphanum then [c] else (String.utf8EncodeChar c).flatMap escaped

/-- The bytes of a text with the escapes resolved. A percent sign without two digits behind it
stands for itself. -/
def unescaped : List UInt8 → List UInt8
  | 37 :: a :: b :: rest =>
    match Text.hexValue? (Char.ofNat a.toNat), Text.hexValue? (Char.ofNat b.toNat) with
    | some hi, some lo => UInt8.ofNat (hi * 16 + lo) :: unescaped rest
    | _, _ => 37 :: unescaped (a :: b :: rest)
  | b :: rest => b :: unescaped rest
  | [] => []

end BidArchive.Url
