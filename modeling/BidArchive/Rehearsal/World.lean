import BidArchive.Collector.Basic
import BidArchive.Feed.Delivery
import BidArchive.Feed.Polling
import BidArchive.Feed.Reader
import BidArchive.Feed.Requests
import BidArchive.Rehearsal.Agenda
import BidArchive.Rehearsal.Script

/-!
# Rehearsals

The sources and the collector are rehearsed against scripted relays, a scripted beacon node and a
planned sink, on a clock that only moves when everybody waits and then jumps to whatever comes next.
What was asked, reported and delivered is written down with its time. A rehearsal is cancelled at a
set time and ends when all that is rehearsed has come to its end.
-/

namespace BidArchive.Rehearsal

open Chain (Slot)
open Feed (Poller Scene Schedule Delivery Reader KnownErrors)

/-- Something that was asked or reported, with its time and its texts. -/
structure Entry where
  time : Nat
  texts : List String
deriving DecidableEq, Repr

/-- The order of lists of texts: by their texts in turn, a shorter list first. -/
def textsPrecede : List String → List String → Bool
  | [], _ => true
  | _ :: _, [] => false
  | a :: as, b :: bs => if a = b then textsPrecede as bs else decide (a < b)

/-- Entries in the order of time, those of the same time in the order of their texts. -/
def sorted (entries : List Entry) : List Entry :=
  entries.mergeSort fun a b =>
    decide (a.time < b.time) || (a.time == b.time && textsPrecede a.texts b.texts)

/-- How it stands with a source. -/
inductive Task
  | absent
  | active
  | ended
  | crashed
deriving DecidableEq, Repr

/-- What is going to happen. -/
inductive Happening
  /-- The poller gets to take a step. -/
  | pollerStep
  /-- A relay answers a poll. -/
  | traces (relay : RelayScript) (slot : Slot) (offsetMs : Int64)
      (answer : Except String (List Relay.Trace))
  /-- The follower of heads subscribes. -/
  | subscribe
  /-- A subscription delivers a head, with more behind it. -/
  | head (head : Except String Beacon.Head) (rest : List HeadScript) (holds : Bool)
  /-- The task of a header wakes up that read the clock once. -/
  | request (relay : RelayScript) (schedule : Schedule) (began : Int64)
  /-- A relay answers a header request. -/
  | header (relay : RelayScript) (schedule : Schedule)
  /-- The reader of the stream connects. -/
  | connect
  | housekeeping
  | cancel

/-- Who takes the batches. -/
inductive Consumer
  /-- A receiver that takes so many more batches, or all. -/
  | receiver (left : Option Nat)
  | collector (collector : Collector SinkRecord String)

/-- What is rehearsed. -/
structure Setting where
  /-- The time at the beginning. -/
  startMs : Int64
  /-- How long until cancellation. -/
  runMs : Nat
  relays : List RelayScript
  beacon : BeaconScript := {}
  table : KnownErrors := .standard
  sink : SinkPlan := {}
  housekeepingMs : Nat := 30000

/-- A rehearsal under way. -/
structure World where
  now : Nat := 0
  agenda : Agenda Happening := []
  /-- What was asked, the last one first. -/
  calls : List Entry := []
  /-- What was reported, the last one first. -/
  logs : List Entry := []
  /-- What was delivered to a receiver, the last one first. -/
  batches : List (Nat × List Bid) := []
  consumer : Consumer
  isCancelled : Bool := false
  poller : Poller := .starting
  pollerTask : Task := .absent
  /-- How often each relay was polled, by their host names and places. -/
  polls : List Nat := []
  /-- The follower of heads and the tasks that it set off. Its node keeps the questions asked, the
  last one first. -/
  scene : Scene (List Beacon.Question) := { follower := { node := [] } }
  subscriptions : Nat := 0
  followerTask : Task := .absent
  /-- The reader of the stream. -/
  reader : Reader := {}
  streamTask : Task := .absent
  /-- How many requests are under way that may still send something. -/
  pending : Nat := 0
  /-- When all came to its end. -/
  endedAt : Option Nat := none

namespace World

variable (setting : Setting)

/-- The time of the clock. -/
def clock (w : World) : Int64 := Int64.ofInt (setting.startMs.toInt + w.now)

/-- Writes down what is reported. -/
def report (notices : List Notice) (w : World) : World :=
  { w with logs := (notices.map fun n => ⟨w.now, n.line⟩).reverse ++ w.logs }

/-- Writes down what is asked. -/
def call (texts : List String) (w : World) : World :=
  { w with calls := ⟨w.now, texts⟩ :: w.calls }

/-- Notes down what happens after some time. -/
def after (delayMs : Nat) (what : Happening) (w : World) : World :=
  { w with agenda := w.agenda.note ⟨w.now + delayMs, false, what⟩ }

/-- How long to sleep until a time of the clock. -/
def waitFor (w : World) (ms : Int64) : Nat := Feed.sleepMs ms (w.clock setting)

/-- Hands a batch to whoever takes batches. Answers whether anybody did. -/
def send (source : Source) (batch : List Bid) (w : World) : Bool × World :=
  match w.consumer with
  | .receiver (some 0) => (false, w)
  | .receiver left =>
    (true, { w with
      consumer := .receiver (left.map (· - 1)), batches := (w.now, batch) :: w.batches })
  | .collector c =>
    (c.isOpen, { w with consumer := .collector (c.take setting.sink.sink (.send source batch)).2 })

/-- Deals with the answer of a relay. -/
def deliver (source : Source) (delivery : Delivery) (w : World) : World :=
  let each (w : World) (batch : List Bid) : World :=
    match w.send setting source batch with
    | (true, w) => w
    | (false, w) => w.report [delivery.dropped]
  delivery.batches.foldl each { w.report delivery.notices with pending := w.pending - 1 }

end World

end BidArchive.Rehearsal
