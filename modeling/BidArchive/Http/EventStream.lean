/-!
# Event streams

A server may keep on sending events as lines of text. A line gives a field its value, one that
begins with a colon is a comment, and an empty line dispatches the event. Lines end with a line
feed, a carriage return or both; a line that is not ended yet is not looked at, and neither is a
carriage return at the very end, which a line feed may still follow.
-/

namespace BidArchive.Http

/-- An event. -/
structure Event where
  /-- The kind of event, empty if it has none. -/
  name : String
  data : String
deriving DecidableEq, Repr

namespace EventStream

/-- The lines that have ended. `line` holds what is read of the present one, from right to left. -/
def lines (line : List Char) : List Char → List (List Char)
  | [] => []
  | ['\r'] => []
  | '\n' :: rest => line.reverse :: lines [] rest
  | '\r' :: '\n' :: rest => line.reverse :: lines [] rest
  | '\r' :: rest => line.reverse :: lines [] rest
  | c :: rest => lines (c :: line) rest

/-- The name and the value of a field. One space behind the colon is not part of the value. -/
def field (line : List Char) : String × List Char :=
  match line.span (· ≠ ':') with
  | (name, ':' :: ' ' :: value) => (String.ofList name, value)
  | (name, _ :: value) => (String.ofList name, value)
  | (name, []) => (String.ofList name, [])

/-- An event under way: its kind, and the lines of its data from last to first. -/
structure Draft where
  name : List Char := []
  data : List (List Char) := []
deriving DecidableEq, Repr

/-- Takes a field. Fields other than the kind and the data do not matter. -/
def Draft.take (draft : Draft) (line : List Char) : Draft :=
  match field line with
  | ("event", value) => { draft with name := value }
  | ("data", value) => { draft with data := value :: draft.data }
  | _ => draft

/-- The event that is dispatched. There is none without data. -/
def Draft.event? (draft : Draft) : Option Event :=
  if draft.data.isEmpty then none
  else some ⟨String.ofList draft.name, "\n".intercalate (draft.data.reverse.map String.ofList)⟩

/-- The events that lines dispatch. -/
def dispatch (draft : Draft) : List (List Char) → List Event
  | [] => []
  | [] :: rest => draft.event?.toList ++ dispatch {} rest
  | line :: rest => dispatch (draft.take line) rest

/-- The events of a stream. A mark of byte order at its beginning is passed over. -/
def events : List Char → List Event
  | '\ufeff' :: rest => dispatch {} (lines [] rest)
  | text => dispatch {} (lines [] text)

end EventStream

end BidArchive.Http
