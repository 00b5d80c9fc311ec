import BidArchive.Collector.Inbox
import BidArchive.Notice

/-!
# The collector

The collector takes batches out of its inbox and hands them to the recorder, and from time to time
has the recorder forget old slots. Once cancelled it goes through the channels one by one, gives
the sources time to stop, goes through the channels again for what came in meanwhile, and flushes.
When a bid cannot be recorded it stops at once and flushes nothing.

It is a machine that is driven by events: batches sent, time for housekeeping, cancellation, the
end of the sources, and its own steps, which may come in any order.
-/

namespace BidArchive

/-- Why a collector stopped before its end. -/
inductive CollectorFault (ε : Type)
  | noBeaconNode
  /-- A batch could not be processed. -/
  | batch (cause : RecorderFault ε)
  | recorder (cause : RecorderFault ε)
deriving DecidableEq, Repr

/-- The wording of a fault with its causes. -/
def CollectorFault.message {ε : Type} (causeMessage : ε → String) : CollectorFault ε → String
  | .noBeaconNode => "a beacon node is required to collect get-header bids"
  | .batch cause => "failed to process bid batch: " ++ cause.message causeMessage
  | .recorder cause => cause.message causeMessage

/-- What keeps a collector with such sources from starting. -/
def startFault? (ε : Type) (sources : List Source) (hasBeaconNode : Bool) :
    Option (CollectorFault ε) :=
  if sources.contains .getHeader && !hasBeaconNode then some .noBeaconNode else none

/-- How a collector ended. -/
abbrev CollectorEnd (ε : Type) := Except (Halt (CollectorFault ε)) Unit

/-- What a collector is at. -/
inductive Stage (ε : Type)
  | gathering
  /-- Going through the channels that are left, for the first or the last time, with the number of
  batches taken. -/
  | draining (isLast : Bool) (left : List Source) (count : Nat)
  /-- Waiting for the sources to stop. -/
  | winding
  | flushing
  | stopped (result : CollectorEnd ε)

/-- What became of the sources. -/
inductive Sources
  | running
  /-- All have stopped, some of them by a crash. -/
  | stopped (crashes : Nat)
  /-- They take too long. -/
  | late
deriving DecidableEq, Repr

/-- What a collector does in a step. -/
inductive Act
  /-- Hands a batch to the recorder. -/
  | take (source : Source) (batch : Batch)
  | housekeep
  | flush
  | notice (notice : Notice)
deriving DecidableEq, Repr

/-- What happens to a collector. -/
inductive Event
  | send (source : Source) (batch : Batch)
  | housekeepingDue
  | cancel
  | sourcesStopped (crashes : Nat)
  | sourcesLate
  /-- It gets to take a step while a slot is in progress. -/
  | step (current : Chain.Slot)
deriving DecidableEq, Repr

/-- A collector at work over a sink with states `σ`. -/
structure Collector (σ ε : Type) where
  recorder : Recorder σ
  inbox : Inbox := .empty
  stage : Stage ε := .gathering
  isCancelled : Bool := false
  isHousekeepingDue : Bool := true
  sources : Sources := .running

namespace Collector

variable {σ ε : Type}

/-- Ends the collector. -/
def stop (result : CollectorEnd ε) (c : Collector σ ε) : Collector σ ε :=
  { c with stage := .stopped result }

/-- Hands a batch to the recorder and goes on with `next`. A failure ends the collector and is
announced by `notices`; so does a crash, without a word. -/
def process (sink : Sink σ ε) (source : Source) (batch : Batch) (notices : List Act)
    (next : Stage ε) (c : Collector σ ε) : List Act × Collector σ ε :=
  match c.recorder.process sink batch with
  | (.ok (), recorder) => ([.take source batch], { c with recorder := recorder, stage := next })
  | (.error (.failed cause), recorder) =>
    (.take source batch :: notices,
      stop (.error (.failed (.batch cause))) { c with recorder := recorder })
  | (.error .crashed, recorder) =>
    ([.take source batch], stop (.error .crashed) { c with recorder := recorder })

/-- Has the recorder forget old slots, and reports the figures. -/
def housekeep (current : Chain.Slot) (c : Collector σ ε) : List Act × Collector σ ε :=
  match c.recorder.housekeep (ε := ε) current with
  | (.error .crashed, recorder) =>
    ([.housekeep], stop (.error .crashed) { c with recorder := recorder })
  | (.error (.failed cause), recorder) =>
    ([.housekeep, .notice .processingFailed],
      stop (.error (.failed (.recorder cause))) { c with recorder := recorder })
  | (.ok evicted, recorder) =>
    match recorder.stats (ε := ε) with
    | .error cause =>
      ([.housekeep, .notice .processingFailed],
        stop (.error (.failed (.recorder cause))) { c with recorder := recorder })
    | .ok stats =>
      ([.housekeep, .notice (.progress evicted stats)],
        { c with recorder := recorder, isHousekeepingDue := false })

/-- Flushes, reports the figures and ends. -/
def finish (sink : Sink σ ε) (c : Collector σ ε) : List Act × Collector σ ε :=
  match c.recorder.shutdown sink with
  | (.error cause, recorder) =>
    ([.flush], stop (.error (.failed (.recorder cause))) { c with recorder := recorder })
  | (.ok (), recorder) =>
    match recorder.stats (ε := ε) with
    | .error cause =>
      ([.flush], stop (.error (.failed (.recorder cause))) { c with recorder := recorder })
    | .ok stats =>
      ([.flush, .notice (.collectorStopped stats)], stop (.ok ()) { c with recorder := recorder })

/-- Takes a step while gathering. Cancellation comes first, then the channels in their order, then
housekeeping. -/
def gather (sink : Sink σ ε) (current : Chain.Slot) (c : Collector σ ε) :
    List Act × Collector σ ε :=
  if c.isCancelled then ([.notice .draining], { c with stage := .draining false drainOrder 0 })
  else
    match c.inbox.pullFirst? drainOrder with
    | some (source, batch, inbox) =>
      process sink source batch [.notice .processingFailed] .gathering { c with inbox := inbox }
    | none => if c.isHousekeepingDue then housekeep current c else ([], c)

/-- Takes a step while going through the channels. -/
def drain (sink : Sink σ ε) (isLast : Bool) (count : Nat) (c : Collector σ ε) :
    List Source → List Act × Collector σ ε
  | [] =>
    ([.notice (.drained count)], { c with stage := if isLast then .flushing else .winding })
  | source :: rest =>
    match c.inbox.pull? source with
    | some (batch, inbox) =>
      process sink source batch [] (.draining isLast (source :: rest) (count + 1))
        { c with inbox := inbox }
    | none => ([], { c with stage := .draining isLast rest count })

/-- Takes a step while waiting for the sources. -/
def wind (c : Collector σ ε) : List Act × Collector σ ε :=
  let next := { c with stage := .draining true drainOrder 0 }
  match c.sources with
  | .running => ([], c)
  | .stopped crashes => (List.replicate crashes (.notice .sourceFailed), next)
  | .late => ([.notice .sourcesLate], next)

/-- Takes a step. -/
def step (sink : Sink σ ε) (current : Chain.Slot) (c : Collector σ ε) :
    List Act × Collector σ ε :=
  match c.stage with
  | .gathering => gather sink current c
  | .draining isLast left count => drain sink isLast count c left
  | .winding => wind c
  | .flushing => finish sink c
  | .stopped _ => ([], c)

/-- The collector takes batches. -/
def isOpen (c : Collector σ ε) : Bool :=
  match c.stage with
  | .stopped _ => false
  | _ => true

/-- The collector has something to do. -/
def isBusy (c : Collector σ ε) : Bool :=
  match c.stage with
  | .gathering => c.isCancelled || c.isHousekeepingDue || decide (0 < c.inbox.count)
  | .winding => c.sources != .running
  | .stopped _ => false
  | _ => true

/-- Takes an event. -/
def take (sink : Sink σ ε) (event : Event) (c : Collector σ ε) : List Act × Collector σ ε :=
  match event with
  | .send source batch =>
    ([], if c.isOpen then { c with inbox := c.inbox.push source batch } else c)
  | .housekeepingDue => ([], { c with isHousekeepingDue := true })
  | .cancel => ([], { c with isCancelled := true })
  | .sourcesStopped crashes => ([], { c with sources := .stopped crashes })
  | .sourcesLate => ([], { c with sources := .late })
  | .step current => c.step sink current

/-- Takes events in order, and answers what was done. -/
def run (sink : Sink σ ε) (c : Collector σ ε) : List Event → List Act × Collector σ ε
  | [] => ([], c)
  | event :: rest =>
    let (acts, c) := c.take sink event
    let (later, c) := run sink c rest
    (acts ++ later, c)

/-- Takes at most so many steps, as long as there is something to do. -/
def settle (sink : Sink σ ε) (current : Chain.Slot) (c : Collector σ ε) :
    Nat → List Act × Collector σ ε
  | 0 => ([], c)
  | fuel + 1 =>
    if c.isBusy then
      let (acts, c) := c.step sink current
      let (later, c) := settle sink current c fuel
      (acts ++ later, c)
    else ([], c)

end Collector

end BidArchive
