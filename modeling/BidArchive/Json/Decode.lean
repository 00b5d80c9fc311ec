import BidArchive.Json.Node
import BidArchive.Number.Word
import BidArchive.Text.Quoted

/-!
# Decoding

Decoders turn JSON values into the values of the program and say why when they cannot. The text is
judged in document order: a value of the wrong kind is reported even if the text is not JSON
further on, and missing members are noticed at the end of their object.

A record is read from an object by the names of its fields, members of other names being skipped
whatever they hold, or from an array of its fields in their order, of which the last ones may be
left out where they have a default.
-/

namespace BidArchive.Json

/-- What was found in place of something else. -/
inductive Found
  | null
  | bool (b : Bool)
  | number (n : Number)
  | text (s : String)
  | sequence
  | map
deriving DecidableEq, Repr

/-- A number as it is named in messages. -/
def Number.described : Number → String
  | .natural n => "integer `" ++ n.repr ++ "`"
  | .negative n => "integer `" ++ n.repr ++ "`"
  | .real isNegative m =>
    "floating point `" ++ (if isNegative then "-" else "") ++ m.text ++ "`"

/-- What was found, as it is named in messages. -/
def Found.described : Found → String
  | .null => "null"
  | .bool true => "boolean `true`"
  | .bool false => "boolean `false`"
  | .number n => n.described
  | .text s => "string " ++ Text.quoted s
  | .sequence => "sequence"
  | .map => "map"

/-- Why a value that is well formed is not the one expected. -/
inductive Cause
  | invalidType (found : Found) (expected : String)
  | invalidValue (found : Found) (expected : String)
  | invalidLength (length : Nat) (expected : String)
  | missingField (name : String)
  | duplicateField (name : String)
deriving DecidableEq, Repr

/-- The wording of a cause. -/
def Cause.message : Cause → String
  | .invalidType found expected =>
    "invalid type: " ++ found.described ++ ", expected " ++ expected
  | .invalidValue found expected =>
    "invalid value: " ++ found.described ++ ", expected " ++ expected
  | .invalidLength length expected =>
    "invalid length " ++ length.repr ++ ", expected " ++ expected
  | .missingField name => "missing field `" ++ name ++ "`"
  | .duplicateField name => "duplicate field `" ++ name ++ "`"

/-- Why a text could not be decoded. -/
inductive Fault
  /-- The text is not JSON, or not JSON that can be represented. -/
  | malformed
  | mismatch (cause : Cause)
deriving DecidableEq, Repr

/-- The wording of a fault. -/
def Fault.message : Fault → String
  | .malformed => "not a JSON document"
  | .mismatch cause => cause.message

/-- A reading of JSON values. -/
abbrev Decoder (α : Type) := Node → Except Fault α

/-- Refuses a value of the wrong kind. -/
def unexpected {α : Type} (expected : String) : Decoder α
  | .null => .error (.mismatch (.invalidType .null expected))
  | .bool b => .error (.mismatch (.invalidType (.bool b) expected))
  | .number (some n) => .error (.mismatch (.invalidType (.number n) expected))
  | .number none => .error .malformed
  | .text (some s) => .error (.mismatch (.invalidType (.text s) expected))
  | .text none => .error .malformed
  | .array _ _ => .error (.mismatch (.invalidType .sequence expected))
  | .object _ _ => .error (.mismatch (.invalidType .map expected))
  | .stray => .error .malformed

/-- Reads a text. -/
def string : Decoder String
  | .text (some s) => .ok s
  | node => unexpected "a string" node

/-- Reads a truth value. -/
def boolean : Decoder Bool
  | .bool b => .ok b
  | node => unexpected "a boolean" node

/-- Reads an integer that fits a signed word. -/
def word : Decoder Int64
  | .number (some (.natural n)) =>
    match Word.signed? n with
    | some w => .ok w
    | none => .error (.mismatch (.invalidValue (.number (.natural n)) "i64"))
  | .number (some (.negative n)) =>
    match Word.signed? n with
    | some w => .ok w
    | none => .error (.mismatch (.invalidValue (.number (.negative n)) "i64"))
  | node => unexpected "i64" node

/-- Reads a text by a rule that may refuse it with a message. -/
def stringBy {α : Type} (rule : String → Except String α) (expected : String) : Decoder α :=
  fun node => do
    let s ← string node
    match rule s with
    | .ok a => .ok a
    | .error message =>
      let shown := "unexpected value: " ++ s ++ ", error: " ++ message
      .error (.mismatch (.invalidValue (.text shown) expected))

/-- Reads all items with one decoder. -/
def items {α : Type} (item : Decoder α) (cut : Bool) : List Node → Except Fault (List α)
  | [] => if cut then .error .malformed else .ok []
  | node :: rest => do
    let a ← item node
    let as ← items item cut rest
    return a :: as

/-- Reads an array. -/
def list {α : Type} (item : Decoder α) : Decoder (List α)
  | .array nodes cut => items item cut nodes
  | node => unexpected "a sequence" node

/-! ## Records -/

/-- Where a field may be left out. -/
inductive Presence
  | required
  /-- In an object, where a missing member means `null`. -/
  | nullable
  /-- In an object, and at the end of an array. -/
  | defaulted
deriving DecidableEq, Repr

/-- A field of a record, of which `Draft` holds the fields read so far. -/
structure Field (Draft : Type) where
  name : String
  presence : Presence := .required
  isSet : Draft → Bool
  read : Draft → Node → Except Fault Draft

/-- A kind of record. -/
structure Schema (Draft α : Type) where
  name : String
  fields : List (Field Draft)
  empty : Draft
  /-- The record, when every field that may not be left out is set. -/
  build : Draft → Option α

namespace Schema

variable {Draft α : Type}

/-- How the record is named where one is expected. -/
def expected (schema : Schema Draft α) : String := "struct " ++ schema.name

/-- How the record is named where its items are counted. -/
def expectedItems (schema : Schema Draft α) : String :=
  schema.expected ++ " with " ++ schema.fields.length.repr
    ++ (if schema.fields.length = 1 then " element" else " elements")

/-- The record of a draft, or the first field that is missing. -/
def finish (schema : Schema Draft α) (draft : Draft) : Except Fault α :=
  match schema.fields.find? fun f => f.presence == .required && !f.isSet draft with
  | some f => .error (.mismatch (.missingField f.name))
  | none =>
    match schema.build draft with
    | some a => .ok a
    | none => .error .malformed

/-- Reads the members of an object into a draft. -/
def readMembers (schema : Schema Draft α) (draft : Draft) :
    List (Option String × Node) → Except Fault Draft
  | [] => .ok draft
  | (none, _) :: _ => .error .malformed
  | (some name, value) :: rest =>
    match schema.fields.find? (·.name == name) with
    | some f =>
      if f.isSet draft then .error (.mismatch (.duplicateField name))
      else do
        let draft ← f.read draft value
        readMembers schema draft rest
    | none => if value.whole then readMembers schema draft rest else .error .malformed

/-- Reads the items of an array into a draft, `index` of them having been read before. -/
def readItems (schema : Schema Draft α) (cut : Bool) (index : Nat) (draft : Draft) :
    List (Field Draft) → List Node → Except Fault Draft
  | [], [] => if cut then .error .malformed else .ok draft
  | [], _ :: _ => .error .malformed
  | f :: fields, node :: rest => do
    let draft ← f.read draft node
    readItems schema cut (index + 1) draft fields rest
  | f :: fields, [] =>
    if cut then .error .malformed
    else if f.presence = .defaulted then readItems schema cut (index + 1) draft fields []
    else .error (.mismatch (.invalidLength index schema.expectedItems))

/-- Reads a record. -/
def decoder (schema : Schema Draft α) : Decoder α
  | .object members cut => do
    let draft ← schema.readMembers schema.empty members
    if cut then .error .malformed else schema.finish draft
  | .array nodes cut => do
    let draft ← schema.readItems cut 0 schema.empty schema.fields nodes
    schema.finish draft
  | node => unexpected schema.expected node

end Schema

/-- Decodes a text that holds nothing but one value. -/
def decodeBytes {α : Type} (decoder : Decoder α) (bytes : List UInt8) : Except Fault α := do
  let document := read bytes
  let a ← decoder document.root
  if document.complete then .ok a else .error .malformed

/-- Decodes a text that holds nothing but one value. -/
def decode {α : Type} (decoder : Decoder α) (text : String) : Except Fault α :=
  decodeBytes decoder text.toUTF8.toList

end BidArchive.Json
