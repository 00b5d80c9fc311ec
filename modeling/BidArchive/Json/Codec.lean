import BidArchive.Chain.Slot
import BidArchive.Json.Decode
import BidArchive.Number.Decimal
import BidArchive.Number.Wide

/-!
# Numbers in texts

Relays and beacon nodes send most numbers as JSON texts. These decoders read them and say, where
they cannot, what was found and what kind of number was expected.
-/

namespace BidArchive.Json

/-- Reads a slot of the range that is taken for real. -/
def slot : Decoder Chain.Slot :=
  stringBy
    (fun s =>
      match Decimal.signed s with
      | .error fault => .error fault.message
      | .ok n => if Chain.Slot.inRange ⟨n⟩ then .ok ⟨n⟩ else .error "slot out of range")
    "a slot number as string e.g. \"6591598\""

/-- Reads an unsigned word. -/
def unsignedWord : Decoder UInt64 :=
  stringBy (fun s => (Decimal.unsigned s).mapError Decimal.Fault.message)
    "a number as string e.g. \"17519480\", which fits within u64"

/-- Reads a number of 256 bits. -/
def wide : Decoder Wide :=
  stringBy (fun s => (Wide.ofText s).mapError Wide.Fault.message)
    ("a number as string e.g. \"118908973575220938641041929\", which fits within u256")

/-- Reads a signed word that may be `null` or an empty text instead. -/
def optionalWord : Decoder (Option Int64)
  | .null => .ok none
  | .text (some "") => .ok none
  | node =>
    stringBy (fun s => ((Decimal.signed s).mapError Decimal.Fault.message).map some)
      "an optional number as string e.g. \"1686000000000\"" node

/-- Reads the bare number of a slot, of any range. -/
def bareSlot : Decoder Chain.Slot := fun node => (word node).map Chain.Slot.mk

end BidArchive.Json
