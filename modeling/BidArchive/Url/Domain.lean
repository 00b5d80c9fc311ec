import BidArchive.Text.Blank
import BidArchive.Text.Composed
import BidArchive.Text.Utf8
import BidArchive.Url.Direction
import BidArchive.Url.Folding
import BidArchive.Url.Joining
import BidArchive.Url.Percent
import BidArchive.Url.Punycode
import BidArchive.Url.Refused

/-!
# Domain names

A domain name may be written in any script. It is brought into one form: characters are folded,
the result is put into composed form, and each of its labels, the parts between dots, is written
in ASCII, behind `xn--` where it holds other characters. Labels that come in that form are read
back first, so that all are held to the same rules: no refused character, no mark in front,
invisible joiners only where they join, and, if any label is written from right to left, each of
one direction only.
-/

namespace BidArchive.Url.Domain

open Text

/-- The mark of a label that is written in another form. -/
def encodedMark : List Char := ['x', 'n', '-', '-']

/-- The character is ASCII. -/
def isAscii (c : Char) : Bool := decide (c.toNat < 128)

/-- The ASCII characters that a domain name may not hold. -/
def isForbidden (c : Char) : Bool :=
  decide (c.toNat ≤ 0x20) || c.toNat == 0x7f
    || ['#', '%', '/', ':', '<', '>', '?', '@', '[', '\\', ']', '^', '|'].contains c

/-- What a character is folded into, nothing for one that is left out. -/
def fold? (c : Char) : Option (List Char) :=
  if refusedRanges.has c then none
  else if ignoredRanges.has c then some []
  else
    match shifted? foldedRuns c with
    | some d => some [d]
    | none =>
      match foldedRows.row? c with
      | some codes => some (codes.map Char.ofNat)
      | none => some [c]

/-- The character stands for itself. -/
def isFolded (c : Char) : Bool := fold? c == some [c]

/-! ## Joiners -/

/-- The invisible character that keeps letters from joining. -/
def nonJoiner : Char := Char.ofNat 0x200c

/-- The invisible character that lets letters join. -/
def joiner : Char := Char.ofNat 0x200d

/-- The class of the marks that take away the vowel of a letter. -/
def viramaClass : Nat := 9

/-- The first letter that is not passed over lies in the ranges. -/
def meets (ranges : List Ranges) (cs : List Char) : Bool :=
  match cs.dropWhile transparentRanges.has with
  | c :: _ => ranges.any (·.has c)
  | [] => false

/-- Every joiner stands behind such a mark, or keeps apart two letters that would join. The
characters before are given from right to left. -/
def joinersFit (before : List Char) : List Char → Bool
  | [] => true
  | c :: rest =>
    let behindVirama :=
      match before with
      | d :: _ => combiningClass d == viramaClass
      | [] => false
    let fits :=
      if c = joiner then behindVirama
      else if c = nonJoiner then
        behindVirama || (meets [joinsNextRanges, joinsBothRanges] before
          && meets [joinsPreviousRanges, joinsBothRanges] rest)
      else true
    fits && joinersFit (c :: before) rest

/-! ## Direction -/

/-- The character shows that a name is written from right to left. -/
def showsRightToLeft (c : Char) : Bool :=
  [Direction.rightToLeft, .arabicLetter, .arabicNumber].contains (directionOf c)

/-- The direction of the last character that is no nonspacing mark. -/
def lastDirection? (ds : List Direction) : Option Direction :=
  (ds.reverse.dropWhile (· == .nonspacing)).head?

/-- The label is of one direction only. -/
def keepsDirection (label : List Char) : Bool :=
  let ds := label.map directionOf
  let last := lastDirection? ds
  match ds with
  | [] => true
  | first :: _ =>
    if first == .rightToLeft || first == .arabicLetter then
      ds.all (· != .leftToRight)
        && [some Direction.rightToLeft, some .arabicLetter, some .europeanNumber,
          some .arabicNumber].contains last
        && !(ds.contains .europeanNumber && ds.contains .arabicNumber)
    else if first == .leftToRight then
      ds.all (fun d => d == .leftToRight || d == .europeanNumber || d == .nonspacing
          || d == .neutral)
        && (last == some .leftToRight || last == some .europeanNumber)
    else false

/-! ## Labels -/

/-- A label beyond ASCII obeys the rules that concern it alone. -/
def isProper (label : List Char) : Bool :=
  label.all isFolded
    && (match label with
      | c :: _ => !isMark c
      | [] => true)
    && joinersFit [] label

/-- A label as it reads and as it is written in ASCII. -/
structure Label where
  read : List Char
  written : List Char

/-- Brings a label into both forms. -/
def label? (cs : List Char) : Option Label :=
  if encodedMark.isPrefixOf cs then do
    let read ← Punycode.decode? (cs.drop encodedMark.length)
    if !read.all isAscii && isProper read && composed read == read then
      return ⟨read, cs⟩
    else none
  else if cs.all isAscii then some ⟨cs, cs⟩
  else if isProper cs then some ⟨cs, encodedMark ++ Punycode.encode cs⟩
  else none

/-- Brings a domain name into its form in ASCII. -/
def ascii? (bytes : List UInt8) : Option (List Char) := do
  let cs ← Utf8.decode? bytes
  let folded ← cs.mapM fold?
  let labels ← (splitAt '.' (composed folded.flatten)).mapM label?
  let rightToLeft := labels.any (·.read.any showsRightToLeft)
  if rightToLeft && !labels.all (fun l => keepsDirection l.read) then none
  else if labels.any (·.read.any isForbidden) then none
  else return (labels.map (·.written)).intersperse ['.'] |>.flatten

end BidArchive.Url.Domain
