import BidArchive.Text.Blank
import BidArchive.Text.Hex

/-!
# Numeric addresses

A host may be given by number. An address of four bytes has up to four parts, each in base ten,
eight (behind a zero) or sixteen (behind `0x`), of which the last one fills all bytes that are
left. An address of eight words is written in base sixteen with colons, one run of zero words may
be left out, and its last two words may be an address of four bytes.
-/

namespace BidArchive.Url

open Text

/-! ## Four bytes -/

/-- A part of an address and what it spells. Too long a numeral counts as too large. -/
inductive Part
  | value (n : Nat)
  | tooLarge
  | notNumber
deriving DecidableEq, Repr

/-- The value of digits in a base of at most sixteen. -/
def digitsIn (base : Nat) (cs : List Char) : Part :=
  match cs.mapM hexValue? with
  | some ds =>
    if ds.all (decide <| · < base) then
      let n := ds.foldl (fun n d => n * base + d) 0
      if n < 0x100000000 then .value n else .tooLarge
    else .notNumber
  | none => .notNumber

/-- Reads a part. -/
def readPart : List Char → Part
  | [] => .notNumber
  | '0' :: 'x' :: digits => digitsIn 16 digits
  | '0' :: 'X' :: digits => digitsIn 16 digits
  | '0' :: c :: digits => digitsIn 8 (c :: digits)
  | digits => digitsIn 10 digits

/-- The host is an address of four bytes, or is to be refused as one: its last part, an empty one
aside, is a number. -/
def endsInNumber (host : List Char) : Bool :=
  let last? :=
    match (splitAt '.' host).reverse with
    | [] :: rest => rest.head?
    | parts => parts.head?
  match last? with
  | some last => (!last.isEmpty && last.all Char.isDigit) || readPart last != .notNumber
  | none => false

/-- Reads an address of four bytes. -/
def readFourBytes (host : List Char) : Option Nat :=
  let parts :=
    match (splitAt '.' host).reverse with
    | [] :: rest => rest.reverse
    | parts => parts.reverse
  let values := parts.filterMap fun p =>
    match readPart p with
    | .value n => some n
    | _ => none
  let leading := values.dropLast
  let last := (values.getLast?).getD 0
  if parts.length ≤ 4 ∧ values.length = parts.length ∧ leading.all (decide <| · < 256)
      ∧ last < 1 <<< (8 * (4 - leading.length)) then
    some (leading.zipIdx.foldl (fun sum (n, i) => sum + n <<< (8 * (3 - i))) last)
  else none

/-- An address of four bytes as it is written. -/
def fourBytesText (address : Nat) : List Char :=
  let byte (i : Nat) : List Char := ((address >>> (8 * i)) % 256).repr.toList
  byte 3 ++ '.' :: byte 2 ++ '.' :: byte 1 ++ '.' :: byte 0

/-! ## Eight words -/

/-- A word of one to four hexadecimal digits. -/
def readWord (cs : List Char) : Option Nat :=
  if cs.isEmpty ∨ 4 < cs.length then none
  else (cs.mapM hexValue?).map fun ds => ds.foldl (fun n d => n * 16 + d) 0

/-- A byte in base ten, without zeros in front. -/
def readByte (cs : List Char) : Option Nat :=
  match cs with
  | [] => none
  | '0' :: _ :: _ => none
  | _ =>
    if cs.all Char.isDigit then
      let n := cs.foldl (fun n c => n * 10 + (c.toNat - 48)) 0
      if n < 256 then some n else none
    else none

/-- The two words that four bytes spell. -/
def readTrailingBytes (cs : List Char) : Option (List Nat) :=
  match (splitAt '.' cs).mapM readByte with
  | some [a, b, c, d] => some [a * 256 + b, c * 256 + d]
  | _ => none

/-- What stands before and behind the first two colons in a row. -/
def splitGap? : List Char → Option (List Char × List Char)
  | ':' :: ':' :: rest => some ([], rest)
  | c :: rest => (splitGap? rest).map fun (front, back) => (c :: front, back)
  | [] => none

/-- Reads words with colons between them. The last ones may be an address of four bytes where the
address of eight words ends with them. -/
def readWords (atEnd : Bool) (cs : List Char) : Option (List Nat) :=
  if cs.isEmpty then some []
  else
    let parts := splitAt ':' cs
    let last := (parts.getLast?).getD []
    if atEnd && last.contains '.' then do
      let words ← parts.dropLast.mapM readWord
      let trailing ← readTrailingBytes last
      return words ++ trailing
    else parts.mapM readWord

/-- Reads an address of eight words. Where words are left out there is at least one of them. -/
def readEightWords (cs : List Char) : Option (List Nat) :=
  match splitGap? cs with
  | some (front, back) => do
    let front ← readWords false front
    let back ← readWords true back
    if front.length + back.length < 8 then
      return front ++ List.replicate (8 - front.length - back.length) 0 ++ back
    else none
  | none => do
    let words ← readWords true cs
    if words.length = 8 then return words else none

/-- How many zeros a list of words begins with. -/
def zeros (words : List Nat) : Nat := (words.takeWhile (· == 0)).length

/-- The first longest run of zeros: its start and its length. -/
def longestZeros (start : Nat) : List Nat → Nat × Nat
  | [] => (start, 0)
  | word :: rest =>
    let here := zeros (word :: rest)
    let later := longestZeros (start + 1) rest
    if later.2 ≤ here then (start, here) else later

/-- Words with colons between them. -/
def wordsText (words : List Nat) : List Char :=
  ((words.map (Nat.toDigits 16)).intersperse [':']).flatten

/-- An address of eight words as it is written. The first longest run of at least two zero words is
left out. -/
def eightWordsText (words : List Nat) : List Char :=
  let (start, length) := longestZeros 0 words
  if 2 ≤ length then
    wordsText (words.take start) ++ ':' :: ':' :: wordsText (words.drop (start + length))
  else wordsText words

end BidArchive.Url
