import BidArchive.Text.LowerCase
import BidArchive.Text.Cased
import BidArchive.Text.CaseIgnorable

/-!
# Lower case

Texts are put into lower case by the full mapping of Unicode. Most characters map on their own;
two need more. The dotted capital I becomes an i with a combining dot, and a capital sigma becomes
the final form of the letter where it ends a word: when a cased character stands before it and
none behind, marks and inner punctuation passed over.
-/

namespace BidArchive.Text

/-- The lower case form of a single character, out of its context. -/
def lowerChar (c : Char) : List Char :=
  if c = 'İ' then ['i', Char.ofNat 0x307]
  else
    match shifted? lowerRuns c with
    | some lower => [lower]
    | none => [c]

/-- The first character that is not ignorable is a cased one. -/
def meetsCased (cs : List Char) : Bool :=
  match cs.dropWhile caseIgnorableRanges.has with
  | c :: _ => casedRanges.has c
  | [] => false

/-- Puts a text into lower case, given the characters before it from right to left. -/
def lowerBehind (before : List Char) : List Char → List Char
  | [] => []
  | c :: rest =>
    let here :=
      if c = 'Σ' then
        if meetsCased before && !meetsCased rest then ['ς'] else ['σ']
      else lowerChar c
    here ++ lowerBehind (c :: before) rest

/-- The text in lower case. -/
def lower (cs : List Char) : List Char := lowerBehind [] cs

/-- The text in lower case. -/
def lowered (s : String) : String := String.ofList (lower s.toList)

end BidArchive.Text
