import BidArchive.Bid.Basic

/-!
# The inbox

Every source has a channel of its own into the collector, which takes batches in the order in which
they were sent and holds a limited number of them. Between channels the order of `drainOrder`
decides.
-/

namespace BidArchive

/-- What a source sends at once. -/
abbrev Batch := List Bid

/-- How many batches a channel holds. -/
def channelCapacity : Nat := 1000

/-- The sources in the order in which their channels are looked at. -/
def drainOrder : List Source := [.dataApi, .getHeader, .ultrasoundStream]

/-- The batches waiting in each channel, the next one first. -/
structure Inbox where
  waiting : Source → List Batch

namespace Inbox

/-- Nothing waits. -/
def empty : Inbox := ⟨fun _ => []⟩

/-- The inbox with other batches waiting in one channel. -/
def update (inbox : Inbox) (source : Source) (batches : List Batch) : Inbox :=
  ⟨fun s => if s = source then batches else inbox.waiting s⟩

/-- The channel has no room. -/
def isFull (inbox : Inbox) (source : Source) : Bool :=
  decide (channelCapacity ≤ (inbox.waiting source).length)

/-- Puts a batch behind the others of its channel. A full channel takes nothing. -/
def push (inbox : Inbox) (source : Source) (batch : Batch) : Inbox :=
  if inbox.isFull source then inbox
  else inbox.update source (inbox.waiting source ++ [batch])

/-- Takes the next batch of a channel. -/
def pull? (inbox : Inbox) (source : Source) : Option (Batch × Inbox) :=
  match inbox.waiting source with
  | [] => none
  | batch :: rest => some (batch, inbox.update source rest)

/-- Takes the next batch of the first of some channels that has one. -/
def pullFirst? (inbox : Inbox) : List Source → Option (Source × Batch × Inbox)
  | [] => none
  | source :: rest =>
    match inbox.pull? source with
    | some (batch, inbox) => some (source, batch, inbox)
    | none => pullFirst? inbox rest

/-- How many batches wait. -/
def count (inbox : Inbox) : Nat :=
  drainOrder.foldl (fun n s => n + (inbox.waiting s).length) 0

end Inbox

end BidArchive
