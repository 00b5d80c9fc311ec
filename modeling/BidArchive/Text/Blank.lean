import BidArchive.Text.Ranges

/-!
# Blanks

A blank is a character of property White_Space: the ASCII blanks, the next-line character and the
spaces and separators of other scripts. Characters of no width are not blanks.
-/

namespace BidArchive.Text

/-- Where the characters of property White_Space lie. -/
def blankRanges : Ranges := [
  (0x9, 0xd), (0x20, 0x20), (0x85, 0x85), (0xa0, 0xa0), (0x1680, 0x1680), (0x2000, 0x200a),
  (0x2028, 0x2029), (0x202f, 0x202f), (0x205f, 0x205f), (0x3000, 0x3000)]

/-- The character is a blank. -/
def isBlank (c : Char) : Bool := blankRanges.has c

/-- The text without the blanks in front. -/
def trimLeft (cs : List Char) : List Char := cs.dropWhile isBlank

/-- The text without the blanks at its end. -/
def trimRight (cs : List Char) : List Char := (cs.reverse.dropWhile isBlank).reverse

/-- The text without the blanks around it. -/
def trim (cs : List Char) : List Char := trimRight (trimLeft cs)

/-- The text without the blanks around it. -/
def trimmed (s : String) : String := String.ofList (trim s.toList)

/-- The parts between the separators of a list, at least one. -/
def splitBy {α : Type} (isSeparator : α → Bool) : List α → List (List α)
  | [] => [[]]
  | a :: rest =>
    if isSeparator a then [] :: splitBy isSeparator rest
    else
      match splitBy isSeparator rest with
      | [] => [[a]]
      | part :: parts => (a :: part) :: parts

/-- The parts between the occurrences of a separator, at least one. -/
def splitAt {α : Type} [BEq α] (separator : α) (l : List α) : List (List α) :=
  splitBy (· == separator) l

/-- What stands before and behind the first occurrence of a separator. -/
def splitOnce? (separator : Char) : List Char → Option (List Char × List Char)
  | [] => none
  | c :: rest =>
    if c = separator then some ([], rest)
    else (splitOnce? separator rest).map fun (front, back) => (c :: front, back)

end BidArchive.Text
