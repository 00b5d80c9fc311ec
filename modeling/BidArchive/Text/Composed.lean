import BidArchive.Text.Composites

/-!
# Composed form

A letter with a mark can be written as one character or as two. In composed form every composite
is taken apart, marks behind a letter are put into the order of their classes, and what can be put
together is put together again, so that equal texts are written equally. Hangul syllables are
taken apart and put together by arithmetic.
-/

namespace BidArchive.Text

/-! ## Hangul -/

/-- The first syllable. -/
def syllableBase : Nat := 0xac00

/-- The first leading consonant. -/
def leadBase : Nat := 0x1100

/-- The first vowel. -/
def vowelBase : Nat := 0x1161

/-- One before the first trailing consonant, in the place of none. -/
def tailBase : Nat := 0x11a7

/-- How many leading consonants there are. -/
def leadCount : Nat := 19

/-- How many vowels there are. -/
def vowelCount : Nat := 21

/-- How many trailing consonants there are, counting none. -/
def tailCount : Nat := 28

/-- The letters of a syllable. -/
def syllableParts? (c : Char) : Option (List Char) :=
  let n := c.toNat - syllableBase
  if syllableBase ≤ c.toNat ∧ n < leadCount * vowelCount * tailCount then
    let lead := Char.ofNat (leadBase + n / (vowelCount * tailCount))
    let vowel := Char.ofNat (vowelBase + n / tailCount % vowelCount)
    if n % tailCount = 0 then some [lead, vowel]
    else some [lead, vowel, Char.ofNat (tailBase + n % tailCount)]
  else none

/-- The syllable of two letters, or of a syllable without trailing consonant and one. -/
def syllable? (a b : Char) : Option Char :=
  let lead := a.toNat - leadBase
  let vowel := b.toNat - vowelBase
  let syllable := a.toNat - syllableBase
  let tail := b.toNat - tailBase
  if leadBase ≤ a.toNat ∧ lead < leadCount ∧ vowelBase ≤ b.toNat ∧ vowel < vowelCount then
    some (Char.ofNat (syllableBase + (lead * vowelCount + vowel) * tailCount))
  else if syllableBase ≤ a.toNat ∧ syllable < leadCount * vowelCount * tailCount
      ∧ syllable % tailCount = 0 ∧ tailBase < b.toNat ∧ tail < tailCount then
    some (Char.ofNat (a.toNat + tail))
  else none

/-! ## Taking apart and putting together -/

/-- The class by which marks are ordered, zero for letters. -/
def combiningClass (c : Char) : Nat :=
  match classRanges.find? fun r => decide (r.1 ≤ c.toNat) && decide (c.toNat ≤ r.2.1) with
  | some r => r.2.2
  | none => 0

/-- The two parts of a composite. -/
def compositeParts? (c : Char) : Option (Char × Char) :=
  match compositeRows.row? c with
  | some [a, b] => some (Char.ofNat a, Char.ofNat b)
  | _ => none

/-- Takes a character apart. Composites are nested at most `depth` deep in their first part. -/
def apart : Nat → Char → List Char
  | 0, c => [c]
  | depth + 1, c =>
    match syllableParts? c with
    | some parts => parts
    | none =>
      match compositeParts? c with
      | some (a, b) => apart depth a ++ [b]
      | none => [c]

/-- No composite has more parts one in another than this. -/
def nesting : Nat := 4

/-- Puts a mark into its place behind the marks of its own and of lower classes, in a list of
marks. -/
def insertMark (c : Char) : List Char → List Char
  | [] => [c]
  | d :: rest =>
    if combiningClass c < combiningClass d then c :: d :: rest else d :: insertMark c rest

/-- Orders marks by their classes, `marks` being the ones that stand behind the last letter. -/
def orderBehind (marks : List Char) : List Char → List Char
  | [] => marks
  | c :: rest =>
    if combiningClass c = 0 then marks ++ c :: orderBehind [] rest
    else orderBehind (insertMark c marks) rest

/-- What two characters can be put together into. -/
def together? (a b : Char) : Option Char :=
  match syllable? a b with
  | some c => some c
  | none =>
    match compositeRows.find? fun row => row.tail == [a.toNat, b.toNat] with
    | some (c :: _) => some (Char.ofNat c)
    | _ => none

/-- Puts characters together behind a letter. `between` holds the ones that stay, from right to
left; a mark is only reached from the letter when none of its own or a higher class, and no letter,
stands between them. -/
def composeBehind (letter : Char) (between : List Char) : List Char → List Char
  | [] => letter :: between.reverse
  | c :: rest =>
    let reached :=
      match between with
      | [] => true
      | d :: _ => decide (combiningClass d ≠ 0 ∧ combiningClass d < combiningClass c)
    match (if reached then together? letter c else none) with
    | some composite => composeBehind composite between rest
    | none =>
      if combiningClass c = 0 then letter :: between.reverse ++ composeBehind c [] rest
      else composeBehind letter (c :: between) rest

/-- Puts together what can be, from the first letter on. -/
def compose : List Char → List Char
  | [] => []
  | c :: rest => if combiningClass c = 0 then composeBehind c [] rest else c :: compose rest

/-- The text in composed form. -/
def composed (cs : List Char) : List Char :=
  compose (orderBehind [] (cs.flatMap (apart nesting)))

end BidArchive.Text
