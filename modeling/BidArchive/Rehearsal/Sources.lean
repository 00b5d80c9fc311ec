import BidArchive.Rehearsal.World

/-!
# Sources in rehearsal

What the sources do as the clock of a rehearsal goes on: the poller takes its steps and polls every
relay, the follower of heads subscribes, takes heads and requests headers, and the reader of the
stream tries to connect to a stream that cannot be connected to.
-/

namespace BidArchive.Rehearsal.World

open Chain (Slot)
open Feed (Schedule)

variable (setting : Setting)

/-! ## Polling -/

/-- Polls every relay. -/
def pollRelays (slot : Slot) (offsetMs : Int64) (w : World) : World :=
  let each (w : World) (p : Feed.PollRequest × RelayScript × Nat) : World :=
    let (request, relay, place) := p
    let answer := relay.poll ((w.polls[place]?).getD 0)
    let w := w.call ["builder_bids", request.relay.hostname, request.slot.text]
    let w := w.after relay.delayMs (.traces relay request.slot request.offsetMs answer)
    { w with polls := w.polls.modify place (· + 1), pending := w.pending + 1 }
  let requests := (Feed.PollerAct.poll slot offsetMs).requests (setting.relays.map (·.entry))
  (requests.zip setting.relays.zipIdx).foldl each (w.report [.polling slot offsetMs])

/-- Ends the poller. It says so if it was waiting for a poll. -/
def endPoller (w : World) : World :=
  let w := { w with pollerTask := .ended }
  match w.poller with
  | .waiting _ _ _ _ => w.report [.pollerStopped]
  | _ => w

/-- Lets the poller take a step. -/
def stepPoller (w : World) : World :=
  let (act, poller) := w.poller.step (w.clock setting)
  let w := { w with poller := poller }
  let w :=
    match act with
    | .poll slot offset => w.pollRelays setting slot offset
    | .miss slot offset => w.report [.pollMissed slot offset]
    | .none => w
  match poller with
  | .crashed => { w with pollerTask := .crashed }
  | _ =>
    match poller.due? with
    | none => w.after 0 .pollerStep
    | some due => if w.isCancelled then w.endPoller else w.after (w.waitFor setting due) .pollerStep

/-- Starts the poller. -/
def startPoller (w : World) : World :=
  let w := w.report [.pollerStarted setting.relays.length]
  { w with pollerTask := .active, polls := setting.relays.map fun _ => 0 }.after 0 .pollerStep

/-! ## Following heads -/

/-- The texts of a question. -/
def questionTexts : Beacon.Question → List String
  | .duties epoch => ["duties", epoch.text]
  | .blockHash root => ["block_hash", root]

/-- Notes down when the tasks of a schedule wake up. -/
def schedule (s : Schedule) (w : World) : World :=
  let each (w : World) (p : Feed.HeaderRequest × RelayScript) : World :=
    { w with pending := w.pending + 1 }.after (w.waitFor setting p.1.schedule.atMs)
      (.request p.2 p.1.schedule (w.clock setting))
  ((s.requests (setting.relays.map (·.entry))).zip setting.relays).foldl each w

/-- Lets the follower deal with an event. -/
def follow (event : Feed.FollowerEvent String) (w : World) : World :=
  let (acts, scene) := w.scene.tell setting.beacon.node (setting.relays.map (·.entry)) event
  let asked := scene.follower.node
  let questions := asked.take (asked.length - w.scene.follower.node.length)
  let w := questions.foldl (fun w q => w.call (questionTexts q)) w
  let w := { w with scene := scene }.report (acts.filterMap Feed.FollowerAct.notice?)
  let w := (acts.filterMap Feed.FollowerAct.schedule?).foldl (fun w s => w.schedule setting s) w
  let delays := acts.filterMap Feed.FollowerAct.delay?
  let w := delays.foldl (fun w delay => w.after delay .subscribe) w
  if scene.follower.isCrashed then { w with followerTask := .crashed } else w

/-- Waits for the next head of a subscription. -/
def awaitHead (heads : List HeadScript) (holds : Bool) (w : World) : World :=
  match heads with
  | next :: rest => w.after next.afterMs (.head next.head rest holds)
  | [] => if holds then w else w.follow setting .ended

/-- Subscribes to heads. -/
def subscribe (w : World) : World :=
  let subscription := setting.beacon.subscribe w.subscriptions
  let w := { w.call ["subscribe"] with subscriptions := w.subscriptions + 1 }
  match subscription with
  | .error _ => w.follow setting .refused
  | .ok subscription =>
    (w.follow setting .subscribed).awaitHead setting subscription.heads subscription.holds

/-- Deals with what a subscription delivers. -/
def receiveHead (head : Except String Beacon.Head) (rest : List HeadScript) (holds : Bool)
    (w : World) : World :=
  let w := w.follow setting (.delivered head)
  if w.followerTask = .active then w.awaitHead setting rest holds else w

/-- Wakes the task of a header up, which then requests it. -/
def request (relay : RelayScript) (s : Schedule) (began : Int64) (w : World) : World :=
  let task := w.scene.waiting.idxOf ⟨relay.entry, s⟩
  match w.scene.wake task began (w.clock setting) with
  | (some _, scene) =>
    ({ w with scene := scene }.call
      ["header", relay.entry.hostname, s.slot.text, s.parentHash, s.proposer]).after
        relay.delayMs (.header relay s)
  | (none, _) => w

/-- Starts to follow heads. -/
def startFollower (w : World) : World :=
  let w := { w with followerTask := .active }.report [.followerStarted setting.relays.length]
  if w.isCancelled then { w with followerTask := .ended }.report [.followerStopped]
  else w.after 0 .subscribe

/-! ## Reading the stream -/

/-- Connects to a stream that cannot be connected to. -/
def connect (w : World) : World :=
  let turn := w.reader.take "" .refused
  let w := w.report turn.notices
  match turn.next with
  | some (delay, reader) => { w with reader := reader }.after delay .connect
  | none => { w with streamTask := .ended }

/-- Starts to read the stream. -/
def startStream (w : World) : World :=
  if w.isCancelled then { w with streamTask := .ended }.report [.streamStopped]
  else { w with streamTask := .active }.after 0 .connect

end BidArchive.Rehearsal.World
