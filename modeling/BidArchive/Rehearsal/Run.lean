import BidArchive.Rehearsal.Sources

/-!
# Running rehearsals

A rehearsal lets things happen until all that is rehearsed has come to its end. The poller or the
follower of heads can be rehearsed with a receiver that takes batches, of which it may take only so
many, or the collector with any of its sources.
-/

namespace BidArchive.Rehearsal

open Chain (Slot)

namespace World

variable (setting : Setting)

/-- All sources have come to an end. -/
def sourcesEnded (w : World) : Bool :=
  [w.pollerTask, w.followerTask, w.streamTask].all (· != .active)

/-- How many sources crashed. -/
def crashes (w : World) : Nat :=
  ([w.pollerTask, w.followerTask, w.streamTask].filter (· == .crashed)).length

/-- Writes down what the collector reports. -/
def reportActs (acts : List Act) (w : World) : World :=
  w.report (acts.filterMap fun act =>
    match act with
    | .notice n => some n
    | _ => none)

/-- Lets the collector do all that it has to do. -/
def settle (w : World) : World :=
  match w.consumer with
  | .receiver _ => w
  | .collector c =>
    let current := (Slot.at? (w.clock setting)).getD ⟨0⟩
    let c := if w.isCancelled && w.sourcesEnded then
        (c.take setting.sink.sink (.sourcesStopped w.crashes)).2
      else c
    let (acts, c) := c.settle setting.sink.sink current (c.inbox.count + 16)
    { w with consumer := .collector c }.reportActs acts

/-- Notices when all has come to its end. -/
def checkEnd (w : World) : World :=
  let isOver :=
    match w.consumer with
    | .receiver (some 0) => w.sourcesEnded
    | .receiver _ => w.sourcesEnded && w.pending == 0
    | .collector c => !c.isOpen
  if isOver then { w with endedAt := some w.now } else w

/-- What a cancellation puts an end to before it happens. -/
def isAbandoned : Happening → Bool
  | .traces _ _ _ _ => false
  | .header _ _ => false
  | _ => true

/-- Cancels the sources and the collector. -/
def cancel (w : World) : World :=
  let w := { w with
    isCancelled := true
    agenda := w.agenda.filter fun item => !isAbandoned item.what
    scene := w.scene.cancel.abandonAll
    pending := w.pending - w.scene.waiting.length }
  let w := if w.pollerTask = .active then w.endPoller else w
  let w := if w.followerTask = .active then
      { w with followerTask := .ended }.report [.followerStopped] else w
  let w := if w.streamTask = .active then
      { w with streamTask := .ended }.report [.streamStopped] else w
  match w.consumer with
  | .receiver _ => w
  | .collector c =>
    { w with consumer := .collector (c.take setting.sink.sink .cancel).2 }

/-- Lets something happen. -/
def happen (what : Happening) (w : World) : World :=
  match what with
  | .pollerStep => w.stepPoller setting
  | .traces relay slot offset answer =>
    w.deliver setting .dataApi
      (.ofTraces relay.entry.hostname slot offset (w.clock setting) answer)
  | .subscribe => w.subscribe setting
  | .head head rest holds => w.receiveHead setting head rest holds
  | .request relay s began => w.request setting relay s began
  | .header relay s =>
    w.deliver setting .getHeader
      (.ofHeader relay.entry.hostname s.slot s.proposer setting.table (w.clock setting)
        (relay.header s.slot))
  | .connect => w.connect
  | .housekeeping =>
    match w.consumer with
    | .receiver _ => w
    | .collector c =>
      { w with consumer := .collector (c.take setting.sink.sink .housekeepingDue).2 }.after
        setting.housekeepingMs .housekeeping
  | .cancel => w.cancel setting

/-- A receiver is done as soon as all has come to its end. -/
def checkReceiver (w : World) : World :=
  match w.consumer with
  | .receiver _ => w.checkEnd
  | .collector _ => w

/-- Lets things happen until all has come to its end. Before the clock moves the collector does what
it has to do. -/
def run (w : World) : Nat → World
  | 0 => w
  | fuel + 1 =>
    match w.endedAt, w.agenda with
    | some _, _ => w
    | none, [] => (w.settle setting).checkEnd
    | none, item :: rest =>
      let w := if w.now < item.time then (w.settle setting).checkEnd else w
      match w.endedAt with
      | some _ => w
      | none =>
        let w := { w with now := item.time, agenda := rest }
        run (w.happen setting item.what).checkReceiver fuel

end World

namespace Setting

/-- How many heads there are to come. -/
def headCount (setting : Setting) : Nat :=
  let more (count : Nat) : Except String Subscription → Nat
    | .ok subscription => count + subscription.heads.length
    | .error _ => count
  setting.beacon.subscriptions.foldl more 0

/-- More things than this do not happen. -/
def fuel (setting : Setting) : Nat :=
  (setting.runMs + setting.headCount + 32) * (2 * setting.relays.length + 32)

/-- A world at its beginning. A rehearsal of no length is cancelled before anything happens. -/
def atStart (setting : Setting) (consumer : Consumer) : World :=
  let w : World := { consumer := consumer }
  if setting.runMs = 0 then { w with isCancelled := true, scene := w.scene.cancel }
  else { w with agenda := [⟨setting.runMs, true, .cancel⟩] }

/-- Rehearses the poller of the data interface. -/
def runPoller (setting : Setting) (closeAfter : Option Nat) : World :=
  ((setting.atStart (.receiver closeAfter)).startPoller setting).run setting setting.fuel

/-- Rehearses the follower of heads. -/
def runFollower (setting : Setting) (closeAfter : Option Nat) : World :=
  ((setting.atStart (.receiver closeAfter)).startFollower setting).checkReceiver.run setting
    setting.fuel

/-- Starts the sources of a collector. -/
def startSources (setting : Setting) (sources : List Source) (w : World) : World :=
  let w := if sources.contains .dataApi then w.startPoller setting else w
  let w := if sources.contains .getHeader then w.startFollower setting else w
  if sources.contains .ultrasoundStream then w.startStream else w

/-- Rehearses a collector with the given sources. -/
def runCollector (setting : Setting) (sources : List Source) (hasBeaconNode : Bool) :
    World :=
  let collector : Collector SinkRecord String :=
    { recorder := { sink := {} }, isCancelled := setting.runMs == 0 }
  let ended (result : CollectorEnd String) : World :=
    { setting.atStart (.collector (collector.stop result)) with endedAt := some 0 }
  match startFault? String sources hasBeaconNode with
  | some fault => ended (.error (.failed fault))
  | none =>
    if setting.housekeepingMs = 0 then (ended (.error .crashed)).report [.sourcesStarted]
    else
      let w := (setting.atStart (.collector collector)).report [.sourcesStarted]
      let w := (setting.startSources sources w).after setting.housekeepingMs .housekeeping
      w.run setting setting.fuel

end Setting

namespace World

/-- How the rehearsed collector ended. -/
def result? (w : World) : Option (CollectorEnd String) :=
  match w.consumer with
  | .collector c =>
    match c.stage with
    | .stopped result => some result
    | _ => none
  | .receiver _ => none

/-- The recorder of the rehearsed collector. -/
def recorder? (w : World) : Option (Recorder SinkRecord) :=
  match w.consumer with
  | .collector c => some c.recorder
  | .receiver _ => none

/-- A source of the rehearsal crashed. -/
def isCrashed (w : World) : Bool := decide (0 < w.crashes)

end World

end BidArchive.Rehearsal
