import BidArchive.Text.Unprintable
import BidArchive.Text.Extending

/-!
# Quoted text

In error messages a text that was found stands in double quotes, with everything that would
disturb the line escaped: quotes and backslashes by a backslash, the common controls by a letter,
and characters without a printed form of their own, or that attach to the character before them,
by their code point.
-/

namespace BidArchive.Text

/-- A code point in lower case hexadecimal between braces. -/
def codeEscape (c : Char) : List Char :=
  ['\\', 'u', '\x7b'] ++ Nat.toDigits 16 c.toNat ++ ['\x7d']

/-- The character as it stands between quotes. -/
def quotedChar (c : Char) : List Char :=
  if c = Char.ofNat 0 then ['\\', '0']
  else if c = '\t' then ['\\', 't']
  else if c = '\r' then ['\\', 'r']
  else if c = '\n' then ['\\', 'n']
  else if c = '\\' then ['\\', '\\']
  else if c = '"' then ['\\', '"']
  else if extendingRanges.has c || unprintableRanges.has c then codeEscape c
  else [c]

/-- The text in quotes. -/
def quoted (s : String) : String :=
  String.ofList (['"'] ++ s.toList.flatMap quotedChar ++ ['"'])

end BidArchive.Text
