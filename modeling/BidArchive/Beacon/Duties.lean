import BidArchive.Beacon.Node
import BidArchive.Bid.Basic
import BidArchive.Notice

/-!
# Duties

The duties of an epoch and of the one after it are kept, so that the proposer of the first slot of
the next epoch is known before its duties would be asked for. They are loaded as a whole or not at
all: when the beacon node fails to answer, what was known stays, and the next attempt asks again.
-/

namespace BidArchive.Beacon

open Chain (Slot Epoch)

/-- The proposers of the epoch loaded last and of the one after it. -/
structure Duties where
  loaded : Option Epoch := none
  /-- The proposers by their slots, one for a slot. -/
  proposers : List (Slot × String) := []
deriving DecidableEq, Repr

/-- Notes the proposer of a slot, in place of the one noted before. -/
def assign (proposers : List (Slot × String)) (duty : Duty) : List (Slot × String) :=
  (duty.slot, normalHex duty.pubkey) :: proposers.filter (·.1 ≠ duty.slot)

/-- How an attempt to load duties ended. -/
inductive Loading (ε : Type)
  /-- They were loaded before. -/
  | kept
  | loaded
  | failed (cause : ε)
  /-- The epoch after the one asked for has no number. -/
  | crashed
deriving DecidableEq, Repr

namespace Duties

/-- Nothing is known. -/
def empty : Duties := {}

/-- The proposer of a slot. -/
def proposer? (duties : Duties) (slot : Slot) : Option String :=
  (duties.proposers.find? (·.1 = slot)).map (·.2)

/-- The duties that two answers make. Where a slot is listed twice the last entry counts. -/
def ofAnswers (epoch : Epoch) (first second : List Duty) : Duties where
  loaded := some epoch
  proposers := (first ++ second).foldl assign []

/-- Loads the duties of an epoch and of the one after it, unless that was done last. -/
def refresh {σ ε : Type} (node : Node σ ε) (epoch : Epoch) (duties : Duties) (state : σ) :
    Loading ε × Duties × σ :=
  if duties.loaded = some epoch then (.kept, duties, state)
  else
    match epoch.later? 1 with
    | none => (.crashed, duties, state)
    | some next =>
      match node.duties epoch state with
      | (.error cause, state) => (.failed cause, duties, state)
      | (.ok first, state) =>
        match node.duties next state with
        | (.error cause, state) => (.failed cause, duties, state)
        | (.ok second, state) => (.loaded, ofAnswers epoch first second, state)

end Duties

end BidArchive.Beacon
