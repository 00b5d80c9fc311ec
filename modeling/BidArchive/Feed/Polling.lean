import BidArchive.Chain.Slot
import BidArchive.Relay.Entry

/-!
# Polling

Relays take bids until shortly after a slot has begun. They are polled at fixed offsets around the
start of every slot, which samples that window. A poll whose moment has passed is left out, because
its answer would misrepresent when bids were available.

The poller is a machine that takes one step per reading of the clock. It begins by waiting for the
start of a slot, so that every offset of the first slot polled lies ahead; from then on it chooses
the slot after the one in progress and goes through its offsets, waiting for each.
-/

namespace BidArchive.Feed

open Chain (Slot)

/-- The moments of polling, in milliseconds from the start of the slot that is polled. -/
def pollOffsets : List Int64 := [-4000, -2000, -500, 500, 2000]

/-- When a poll is due. -/
inductive Moment
  | ahead (ms : Int64)
  | passed
  /-- The moment fits no word. -/
  | overflow
deriving DecidableEq, Repr

/-- When to poll for a slot at an offset, seen from `now`. -/
def pollMoment (slot : Slot) (offsetMs now : Int64) : Moment :=
  match Word.add? slot.startMs offsetMs with
  | none => .overflow
  | some ms => if ms < now then .passed else .ahead ms

/-- The slot after the one in progress. -/
def nextSlot? (now : Int64) : Option Slot := do
  let current ← Slot.at? now
  current.later? 1

/-- Where the poller stands. -/
inductive Poller
  | starting
  /-- Waiting for the start of a slot. -/
  | aligning (first : Slot)
  | choosing
  /-- Going through the offsets of a slot that are left. -/
  | considering (slot : Slot) (offsets : List Int64)
  /-- Waiting for the moment of a poll. -/
  | waiting (slot : Slot) (offsetMs due : Int64) (rest : List Int64)
  /-- A calculation did not fit a word. -/
  | crashed
deriving DecidableEq, Repr

/-- What the poller does in a step, besides moving on. -/
inductive PollerAct
  | none
  | poll (slot : Slot) (offsetMs : Int64)
  | miss (slot : Slot) (offsetMs : Int64)
deriving DecidableEq, Repr

/-- A poll to be made of a relay. -/
structure PollRequest where
  relay : Relay.Entry
  slot : Slot
  offsetMs : Int64
deriving DecidableEq, Repr

/-- What is asked of relays in a step: a poll is one request for each relay. -/
def PollerAct.requests (act : PollerAct) (relays : List Relay.Entry) : List PollRequest :=
  match act with
  | .poll slot offsetMs => relays.map fun relay => ⟨relay, slot, offsetMs⟩
  | _ => []

namespace Poller

/-- The moment that the poller waits for. It does not take a step before. -/
def due? : Poller → Option Int64
  | .aligning first => some first.startMs
  | .waiting _ _ due _ => some due
  | _ => .none

/-- Takes a step at a reading of the clock. -/
def step (now : Int64) : Poller → PollerAct × Poller
  | .starting =>
    match nextSlot? now with
    | some first => (.none, .aligning first)
    | .none => (.none, .crashed)
  | .aligning _ => (.none, .choosing)
  | .choosing =>
    match nextSlot? now with
    | some slot => (.none, .considering slot pollOffsets)
    | .none => (.none, .crashed)
  | .considering _ [] => (.none, .choosing)
  | .considering slot (offset :: rest) =>
    match pollMoment slot offset now with
    | .ahead ms => (.none, .waiting slot offset ms rest)
    | .passed => (.miss slot offset, .considering slot rest)
    | .overflow => (.none, .crashed)
  | .waiting slot offset _ rest => (.poll slot offset, .considering slot rest)
  | .crashed => (.none, .crashed)

/-- Takes a step for each reading, and answers what was done. -/
def run : List Int64 → Poller → List PollerAct × Poller
  | [], poller => ([], poller)
  | now :: rest, poller =>
    let (act, poller) := poller.step now
    let (acts, poller) := run rest poller
    (act :: acts, poller)

end Poller

end BidArchive.Feed
