import BidArchive.Beacon.Duties
import BidArchive.Relay.Entry

/-!
# Heads

When a block becomes the head of the chain, the next slot's proposer is going to build on it. If
that proposer and the hash of the block are known, every relay is asked once for the header that it
would hand to the proposer, shortly after the start of the slot, when the winning bid is settled.

Heads repeat when the chain reorganises. A slot is scheduled once, and only if it comes after all
slots scheduled before; a head that is skipped for any other reason leaves nothing behind but the
duties that were loaded for it.
-/

namespace BidArchive.Feed

open Chain (Slot)

/-- How long after the start of a slot headers are requested. -/
def requestDelayMs : Int64 := 1000

/-- What is remembered from head to head. -/
structure HeadState where
  duties : Beacon.Duties := {}
  /-- The last slot that headers were scheduled for. -/
  scheduled : Option Slot := none
deriving DecidableEq, Repr

/-- The headers of a slot that are to be requested. -/
structure Schedule where
  slot : Slot
  parentHash : String
  proposer : String
  /-- Not to be requested before. -/
  atMs : Int64
deriving DecidableEq, Repr

/-- A header to be requested from a relay. -/
structure HeaderRequest where
  relay : Relay.Entry
  schedule : Schedule
deriving DecidableEq, Repr

/-- One request for each relay. -/
def Schedule.requests (schedule : Schedule) (relays : List Relay.Entry) : List HeaderRequest :=
  relays.map fun relay => ⟨relay, schedule⟩

/-- What became of a head. -/
inductive HeadOutcome
  | scheduled (schedule : Schedule)
  | skipped
  /-- A calculation did not fit a word. -/
  | crashed
deriving DecidableEq, Repr

/-- A head taken: what there is to report, what became of it, and the states after it. -/
structure HeadTaken (σ : Type) where
  notices : List Notice
  outcome : HeadOutcome
  state : HeadState
  node : σ

namespace HeadState

/-- The slot lies at or before the last one scheduled. -/
def covers (state : HeadState) (slot : Slot) : Bool :=
  match state.scheduled with
  | some last => decide (slot ≤ last)
  | none => false

variable {σ ε : Type}

/-- Schedules a slot whose proposer is known. -/
def schedule (node : Beacon.Node σ ε) (head : Beacon.Head) (slot : Slot) (proposer : String)
    (state : HeadState) (inner : σ) : HeadTaken σ :=
  match node.blockHash head.block inner with
  | (.error _, inner) => ⟨[.blockHashFailed head.block], .skipped, state, inner⟩
  | (.ok none, inner) => ⟨[.noPayload head.block], .skipped, state, inner⟩
  | (.ok (some parentHash), inner) =>
    match Word.add? slot.startMs requestDelayMs with
    | none => ⟨[], .crashed, state, inner⟩
    | some atMs =>
      ⟨[], .scheduled ⟨slot, parentHash, proposer, atMs⟩,
        { state with scheduled := some slot }, inner⟩

/-- Schedules a slot if its proposer is known. -/
def propose (node : Beacon.Node σ ε) (head : Beacon.Head) (slot : Slot) (state : HeadState)
    (inner : σ) : HeadTaken σ :=
  match state.duties.proposer? slot with
  | none => ⟨[.noProposer slot], .skipped, state, inner⟩
  | some proposer => schedule node head slot proposer state inner

/-- What loading duties has to report. -/
def loadingNotices (epoch : Chain.Epoch) (duties : Beacon.Duties) :
    Beacon.Loading ε → List Notice
  | .kept => []
  | .loaded => [.dutiesLoaded epoch duties.proposers.length]
  | .failed _ => [.dutiesFailed epoch]
  | .crashed => []

/-- Takes a head whose next slot is known. -/
def takeNext (node : Beacon.Node σ ε) (head : Beacon.Head) (slot : Slot) (state : HeadState)
    (inner : σ) : HeadTaken σ :=
  if state.covers slot then ⟨[.alreadyScheduled slot], .skipped, state, inner⟩
  else
    let epoch := head.slot.epoch
    let (loading, duties, inner) := state.duties.refresh node epoch inner
    let state := { state with duties := duties }
    match loading with
    | .crashed => ⟨[], .crashed, state, inner⟩
    | _ =>
      let taken := propose node head slot state inner
      { taken with notices := loadingNotices epoch duties loading ++ taken.notices }

/-- Takes a head. -/
def take (node : Beacon.Node σ ε) (head : Beacon.Head) (state : HeadState) (inner : σ) :
    HeadTaken σ :=
  match head.slot.later? 1 with
  | none => ⟨[], .crashed, state, inner⟩
  | some slot =>
    let taken := takeNext node head slot state inner
    { taken with notices := .newHead head.slot slot :: taken.notices }

end HeadState

end BidArchive.Feed
