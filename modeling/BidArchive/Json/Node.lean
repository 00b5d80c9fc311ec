import BidArchive.Json.Event

/-!
# JSON values

A JSON text is kept as the tree of what could be read of it. Where the text stops being JSON the
tree ends: the array or object that was open there is `cut`, and a member whose value could not be
read has the value `stray`. A decoder that walks the tree in document order so meets a value of
the wrong kind and a fault of the text in the order in which they stand.

Members of an object stay in document order, and a name may occur twice.
-/

namespace BidArchive.Json

/-- A value, as far as it could be read. -/
inductive Node
  | null
  | bool (b : Bool)
  | number (n : Option Number)
  | text (s : Option String)
  | array (items : List Node) (cut : Bool)
  | object (members : List (Option String × Node)) (cut : Bool)
  | stray
deriving Repr

/-- A text as a value and whether only blanks follow it. -/
structure Document where
  root : Node
  complete : Bool

/-- An array or object that is still open, its content from right to left. -/
inductive Open
  | array (items : List Node)
  | object (members : List (Option String × Node)) (name : Option (Option String))

/-- The open container as a value. A name without a value gets the value `stray`. -/
def Open.close (cut : Bool) : Open → Node
  | .array items => .array items.reverse cut
  | .object members none => .object members.reverse cut
  | .object members (some name) => .object ((name, .stray) :: members).reverse cut

/-- Puts a value where the open container expects one. -/
def Open.put (node : Node) : Open → Open
  | .array items => .array (node :: items)
  | .object members (some name) => .object ((name, node) :: members) none
  | .object members none => .object ((none, node) :: members) none

/-- Closes everything that is open around a value that is cut. -/
def cutAll (node : Node) : List Open → Node
  | [] => node
  | frame :: outer => cutAll ((frame.put node).close true) outer

/-- A text in reading: what is open, innermost first, and the value that was completed outside of
everything. -/
structure Reading where
  frames : List Open
  root : Option Node

namespace Reading

/-- Nothing read yet. -/
def start : Reading := ⟨[], none⟩

/-- Takes a complete value. -/
def put (reading : Reading) (node : Node) : Reading :=
  match reading.frames with
  | [] => ⟨[], some node⟩
  | frame :: outer => ⟨frame.put node :: outer, reading.root⟩

/-- Takes the end of what was opened last. -/
def close (reading : Reading) : Reading :=
  match reading.frames with
  | [] => reading
  | frame :: outer => put ⟨outer, reading.root⟩ (frame.close false)

/-- Takes the name of a member. -/
def key (reading : Reading) (name : Option String) : Reading :=
  match reading.frames with
  | .object members _ :: outer => ⟨.object members (some name) :: outer, reading.root⟩
  | _ => reading

/-- The text, when it stops being JSON here. -/
def cut (reading : Reading) : Document :=
  match reading.frames with
  | [] => ⟨reading.root.getD .stray, false⟩
  | frame :: outer => ⟨cutAll (frame.close true) outer, false⟩

/-- The text that goes on with the given events. -/
def finish (reading : Reading) : List Event → Document
  | [] => reading.cut
  | event :: rest =>
    match event with
    | .null => (reading.put .null).finish rest
    | .bool b => (reading.put (.bool b)).finish rest
    | .number n => (reading.put (.number n)).finish rest
    | .text s => (reading.put (.text s)).finish rest
    | .key s => (reading.key s).finish rest
    | .arrayStart => finish ⟨.array [] :: reading.frames, reading.root⟩ rest
    | .objectStart => finish ⟨.object [] none :: reading.frames, reading.root⟩ rest
    | .arrayEnd => reading.close.finish rest
    | .objectEnd => reading.close.finish rest
    | .stray => reading.cut
    | .finish => ⟨reading.root.getD .stray, true⟩

end Reading

/-- Reads a text. -/
def read (bytes : List UInt8) : Document := Reading.start.finish (events bytes)

mutual

/-- The value could be read to its end. -/
def Node.whole : Node → Bool
  | .array items cut => !cut && wholeItems items
  | .object members cut => !cut && wholeMembers members
  | .stray => false
  | _ => true

/-- All items could be read to their end. -/
def wholeItems : List Node → Bool
  | [] => true
  | item :: rest => item.whole && wholeItems rest

/-- All values of the members could be read to their end. -/
def wholeMembers : List (Option String × Node) → Bool
  | [] => true
  | (_, value) :: rest => value.whole && wholeMembers rest

end

end BidArchive.Json
