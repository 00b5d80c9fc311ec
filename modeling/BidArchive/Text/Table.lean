import BidArchive.Text.Hex

/-!
# Tables in text

Large tables of code points are kept as text: rows of hexadecimal numbers with colons between the
numbers of a row and blanks or line feeds between the rows.
-/

namespace BidArchive.Text

/-- Rows of numbers. -/
abbrev Table := List (List Nat)

namespace Table

/-- A table in reading: the number and the row under way and the rows before, the last one
first. -/
structure Reading where
  number : Nat := 0
  row : List Nat := []
  /-- The row under way has a number. -/
  begun : Bool := false
  rows : Table := []

/-- Takes one character. -/
def Reading.take (r : Reading) (c : Char) : Reading :=
  match hexValue? c with
  | some d => { r with number := r.number * 16 + d, begun := true }
  | none =>
    if c = ':' then { r with number := 0, row := r.number :: r.row }
    else if r.begun then { rows := (r.number :: r.row).reverse :: r.rows }
    else r

/-- Reads a table. -/
def read (text : String) : Table :=
  ((text.toList.foldl Reading.take {}).take '\n').rows.reverse

/-- The row that begins with the code point of a character, without it. -/
def row? (table : Table) (c : Char) : Option (List Nat) :=
  (table.find? (·.head? = some c.toNat)).map List.tail

end Table

end BidArchive.Text
