/-!
# Delimited rows

Rows of cells are written with a delimiter between the cells and a line feed behind each row. A
cell that holds the delimiter, a quote, a carriage return or a line feed stands in quotes, with
the quotes inside of it doubled; all others stand as they are. The reader takes quoted and bare
cells back, lets a carriage return end a row as well, and passes over rows without anything in
them. A row of one empty cell is written as a pair of quotes, so that it is not taken for nothing.
-/

namespace BidArchive.Delimited

/-- The cell cannot stand as it is. -/
def needsQuotes (delimiter : Char) (cell : List Char) : Bool :=
  cell.any fun c => c == delimiter || c == '"' || c == '\r' || c == '\n'

/-- The cell with its quotes doubled. -/
def doubled : List Char → List Char
  | [] => []
  | c :: rest => if c = '"' then '"' :: '"' :: doubled rest else c :: doubled rest

/-- The cell as it is written. -/
def cell (delimiter : Char) (content : List Char) : List Char :=
  if needsQuotes delimiter content then '"' :: doubled content ++ ['"'] else content

/-- The cells as they are written, without the line feed. -/
def cells (delimiter : Char) : List (List Char) → List Char
  | [] => []
  | [last] => cell delimiter last
  | first :: rest => cell delimiter first ++ delimiter :: cells delimiter rest

/-- The row as it is written. -/
def row (delimiter : Char) (record : List String) : List Char :=
  match record with
  | [""] => ['"', '"', '\n']
  | _ => cells delimiter (record.map String.toList) ++ ['\n']

/-- Where a reader stands within a cell. -/
inductive Place
  /-- Before the first character. -/
  | start
  /-- In a cell without quotes. -/
  | bare
  /-- Between quotes. -/
  | quoted
  /-- Behind a quote that may be the last one or the first of two. -/
  | closing
deriving DecidableEq, Repr

/-- Reads rows, with the row and the cell under way from right to left. -/
def readFrom (delimiter : Char) (place : Place) (done : List String) (content : List Char) :
    List Char → List (List String)
  | [] =>
    if place = .start ∧ done = [] then []
    else [(String.ofList content.reverse :: done).reverse]
  | c :: rest =>
    if place = .quoted then
      if c = '"' then readFrom delimiter .closing done content rest
      else readFrom delimiter .quoted done (c :: content) rest
    else if c = '"' ∧ place = .start then readFrom delimiter .quoted done content rest
    else if c = '"' ∧ place = .closing then readFrom delimiter .quoted done (c :: content) rest
    else if c = delimiter then
      readFrom delimiter .start (String.ofList content.reverse :: done) [] rest
    else if c = '\n' ∨ c = '\r' then
      if place = .start ∧ done = [] then readFrom delimiter .start [] [] rest
      else (String.ofList content.reverse :: done).reverse :: readFrom delimiter .start [] [] rest
    else readFrom delimiter .bare done (c :: content) rest

/-- The rows of a file. -/
def read (delimiter : Char) (text : List Char) : List (List String) :=
  readFrom delimiter .start [] [] text

end BidArchive.Delimited
