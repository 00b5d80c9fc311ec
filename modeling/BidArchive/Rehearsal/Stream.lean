import BidArchive.Feed.Reader

/-!
# Rehearsing the top bid stream

The reader of the stream is rehearsed against connections that are scripted in full. A connection is
refused, or accepted and then broken off behind its items. Everything within a connection happens at
one time; between connections the reader waits as long as its retry delay says. When it connects
once more than there are connections it is cancelled.
-/

namespace BidArchive.Rehearsal

/-- A scripted connection. -/
inductive Connection
  | refused
  | accepted (items : List Feed.Item)
deriving DecidableEq, Repr

/-- What came of a rehearsal: when the reader connected, what it delivered and what it reported. -/
structure StreamRun where
  connectedAt : List Nat
  batches : List (Nat × List Bid)
  notices : List (Nat × Notice)
deriving DecidableEq, Repr

/-- A scripted connection at a time. -/
def Connection.attempt (now : Int64) : Connection → Feed.Attempt
  | .refused => .refused
  | .accepted items =>
    .connected ((items ++ [Feed.Item.failure "broken off"]).map fun item => (now, item))

/-- Rehearses a reader from `time` milliseconds on. -/
def rehearseReader (relay : String) (startMs : Int64) (time : Nat) (reader : Feed.Reader) :
    List Connection → StreamRun
  | [] => ⟨[time], [], [(time, .streamStopped)]⟩
  | connection :: rest =>
    let turn := reader.take relay (connection.attempt (Int64.ofInt (startMs.toInt + time)))
    let batches := turn.batches.map fun batch => (time, batch)
    let notices := turn.notices.map fun notice => (time, notice)
    match turn.next with
    | none => ⟨[time], batches, notices⟩
    | some (delay, reader) =>
      let later := rehearseReader relay startMs (time + delay) reader rest
      ⟨time :: later.connectedAt, batches ++ later.batches, notices ++ later.notices⟩

/-- Rehearses the reader from `time` milliseconds on. The receiver takes `capacity` more batches, or
all. -/
def rehearseStream (relay : String) (startMs : Int64) (retry : Feed.Retry) (time : Nat)
    (capacity : Option Nat) (connections : List Connection) : StreamRun :=
  rehearseReader relay startMs time ⟨retry, capacity⟩ connections

end BidArchive.Rehearsal
