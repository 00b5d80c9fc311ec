import BidArchive.Text.Blank

/-!
# Known errors

Some answers of a relay look like errors and only mean that there is nothing to collect. A table
tells them by a piece of their message. Each relay words them in its own way, so the table can be
given in settings, as entries `outcome:piece` with semicolons between them. Blanks around the
parts and empty entries do not count, and only the first colon of an entry separates.
-/

namespace BidArchive.Feed

/-- What an expected error means. -/
inductive Outcome
  | noBid
  | rateLimited
deriving DecidableEq, Repr

/-- The name of the outcome. -/
def Outcome.text : Outcome → String
  | .noBid => "no-bid"
  | .rateLimited => "rate-limited"

/-- The outcome of the given name. -/
def Outcome.ofName? (name : String) : Option Outcome :=
  if name = "no-bid" then some .noBid
  else if name = "rate-limited" then some .rateLimited
  else none

/-- Why a text is no table of known errors. -/
inductive TableFault
  | missingSeparator (entry : String)
  | emptyPiece (entry : String)
  | unknownOutcome (name : String)
deriving DecidableEq, Repr

/-- The wording of a fault. -/
def TableFault.message : TableFault → String
  | .missingSeparator entry => "known error entry missing ':' separator: " ++ entry
  | .emptyPiece entry => "known error entry has an empty substring: " ++ entry
  | .unknownOutcome name => "unknown expected outcome: " ++ name

/-- Reads an outcome, blanks around it aside. -/
def Outcome.read (text : String) : Except TableFault Outcome :=
  let name := Text.trimmed text
  match Outcome.ofName? name with
  | some outcome => .ok outcome
  | none => .error (.unknownOutcome name)

/-- Pieces of messages and what they mean. -/
structure KnownErrors where
  entries : List (String × Outcome)
deriving DecidableEq, Repr

namespace KnownErrors

/-- The table that is used when none is given. -/
def standard : KnownErrors :=
  ⟨[("no builder bid", .noBid), ("Too many getHeader requests", .rateLimited)]⟩

/-- The piece occurs in the message, letter by letter. -/
def occursIn (piece : List Char) : List Char → Bool
  | [] => piece.isEmpty
  | c :: rest => piece.isPrefixOf (c :: rest) || occursIn piece rest

/-- What a message means: the first entry whose piece occurs in it decides. -/
def classify (table : KnownErrors) (message : String) : Option Outcome :=
  (table.entries.find? fun entry => occursIn entry.1.toList message.toList).map (·.2)

/-- Reads one entry that has no blanks around it. -/
def readEntry (entry : List Char) : Except TableFault (String × Outcome) :=
  match Text.splitOnce? ':' entry with
  | none => .error (.missingSeparator (String.ofList entry))
  | some (outcome, piece) =>
    let piece := Text.trim piece
    if piece.isEmpty then .error (.emptyPiece (String.ofList entry))
    else do
      let outcome ← Outcome.read (String.ofList outcome)
      return (String.ofList piece, outcome)

/-- Reads a table. -/
def read (text : String) : Except TableFault KnownErrors := do
  let pieces := ((Text.splitAt ';' text.toList).map Text.trim).filter (!·.isEmpty)
  let entries ← pieces.mapM readEntry
  return ⟨entries⟩

end KnownErrors

end BidArchive.Feed
