import BidArchive.Feed.Forward

/-!
# Reading the top bid stream

The reader keeps a connection to the top bid stream open. When a connection ends, or could not be
made, it reports so and tries again after a delay, which begins anew with every connection made.
It only comes to an end where nobody takes its batches any more.
-/

namespace BidArchive.Feed

/-- What comes of an attempt to connect. -/
inductive Attempt
  | refused
  /-- A connection, by its items, each with the time at which it is read. -/
  | connected (items : List (Int64 × Item))
deriving DecidableEq, Repr

/-- The reader between two attempts. -/
structure Reader where
  retry : Retry := .fresh
  /-- How many more batches are taken, or all. -/
  capacity : Option Nat := none
deriving DecidableEq, Repr

/-- What the reader makes of an attempt. -/
structure Reader.Turn where
  batches : List (List Bid)
  notices : List Notice
  /-- The delay before the next attempt, and the reader from there on. -/
  next : Option (Nat × Reader)
deriving DecidableEq, Repr

namespace Reader

/-- Waits before the next attempt. -/
def backOff (notices : List Notice) (reader : Reader) : Turn :=
  let (delay, retry) := reader.retry.next
  ⟨[], notices ++ [.reconnecting (delay / 1000)], some (delay, { reader with retry := retry })⟩

/-- Goes through an attempt. -/
def take (relay : String) (attempt : Attempt) (reader : Reader) : Turn :=
  match attempt with
  | .refused => reader.backOff [.streamRefused]
  | .connected items =>
    let forwarded := forwardTimed relay reader.capacity items
    let notices := .streamConnected :: forwarded.notices
    match forwarded.outcome with
    | .stopped => ⟨forwarded.batches, notices ++ [.streamStopped], none⟩
    | outcome =>
      let left := reader.capacity.map (· - forwarded.batches.length)
      let turn := Reader.backOff (notices ++ outcome.notices) ⟨reader.retry.reset, left⟩
      { turn with batches := forwarded.batches }

end Reader

end BidArchive.Feed
