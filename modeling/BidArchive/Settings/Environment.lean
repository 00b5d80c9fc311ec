import BidArchive.Number.Decimal
import BidArchive.Text.Blank
import BidArchive.Text.Lower
import BidArchive.Text.Utf8

/-!
# The environment

Settings come from environment variables. A variable holds bytes; bytes that are no text stop the
program. Whenever a variable is read its value goes into the log, except that of a secret only the
last four bytes are shown. They are cut off by bytes, and a secret that has no character boundary
there stops the program, too.
-/

namespace BidArchive

/-- The variables that are set, with their bytes. -/
structure Environment where
  bindings : List (String × List UInt8)

/-- How the reading of a variable ended. -/
inductive Reading (α : Type)
  | ok (a : α)
  /-- The program stops here. -/
  | crashed
deriving DecidableEq, Repr

namespace Environment

/-- The variables whose values are secret: addresses of beacon nodes tend to hold a key. -/
def secrets : List String := ["BEACON_URL"]

/-- How many bytes of a secret are shown. -/
def shownBytes : Nat := 4

/-- The end of a text of at most so many bytes, counted from its end. There is none when the cut
would go through a character. -/
def lastBytes? (count : Nat) (text : List Char) : Option (List Char) :=
  if (Text.Utf8.encode text).length ≤ count then some text
  else
    match text with
    | [] => some []
    | c :: rest =>
      if (Text.Utf8.encode (c :: rest)).length - (String.utf8EncodeChar c).length < count then none
      else lastBytes? count rest
termination_by text.length

/-- What the log shows of a value. -/
def shown? (key value : String) : Option String :=
  if secrets.contains key then
    (lastBytes? shownBytes value.toList).map fun shown => "****" ++ String.ofList shown
  else some value

/-- What the log shows when a variable is read. -/
def logText? (key : String) (value : Option String) : Option String :=
  match value with
  | some value => (shown? key value).map fun shown => "env var " ++ key ++ ": " ++ shown
  | none => some ("env var " ++ key ++ " requested but not found")

/-- Reads a variable. -/
def get (env : Environment) (key : String) : Reading (Option String) :=
  match env.bindings.find? (·.1 = key) with
  | none => .ok none
  | some (_, bytes) =>
    match Text.Utf8.decode? bytes with
    | none => .crashed
    | some chars =>
      let value := String.ofList chars
      match logText? key (some value) with
      | some _ => .ok (some value)
      | none => .crashed

end Environment

/-- The truth value that a text spells, in either case and without blanks. -/
def truthValue? (text : String) : Option Bool :=
  if ["true", "t", "1"].contains text then some true
  else if ["false", "f", "0"].contains text then some false
  else none

/-- The parts of a list with commas, without the blanks around them and without empty ones. -/
def listParts (text : String) : List String :=
  (((Text.splitAt ',' text.toList).map Text.trim).filter (!·.isEmpty)).map String.ofList

end BidArchive
