import BidArchive.Json.Decode

/-!
# Envelopes

Answers of relays and beacon nodes wrap what matters in records of which only one field is read.
-/

namespace BidArchive.Json

/-- A record with one field of interest. In an object it may be left out if `absent` says what that
means. -/
def envelope {α : Type} (record field : String) (decoder : Decoder α) (absent : Option α) :
    Schema (Option α) α where
  name := record
  fields := [
    { name := field, presence := if absent.isSome then .nullable else .required,
      isSet := Option.isSome,
      read := fun _ node => (decoder node).map some }]
  empty := none
  build := fun draft => draft.or absent

end BidArchive.Json
