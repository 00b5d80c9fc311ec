import BidArchive.Beacon.Client
import BidArchive.Feed.Follower
import BidArchive.Feed.Sleep

/-!
# Requests for headers

A slot that the follower schedules sets off a task for every relay. A task reads the clock once,
sleeps until the moment of the schedule and requests the header, unless it finds itself cancelled. A
task that is looked after when its time has come and it was cancelled as well may do either.

Follower and tasks go on side by side, so what happens to them is a list of incidents in any order.
-/

namespace BidArchive.Feed

open Beacon (Node readHead)

/-- What the follower hears from its beacon node. -/
inductive News
  | subscribed
  /-- It could not subscribe. -/
  | refused
  /-- The subscription delivers an event with such data. -/
  | event (data : String)
  /-- The subscription delivers what is no text. -/
  | noise
  | ended
deriving DecidableEq, Repr

/-- What it means. -/
def News.meaning : News → FollowerEvent Beacon.HeadFault
  | .subscribed => .subscribed
  | .refused => .refused
  | .event data => .delivered (readHead data)
  | .noise => .delivered (.error .unreadable)
  | .ended => .ended

/-- What happens where headers are requested. -/
inductive Incident
  | news (news : News)
  /-- A task that read the clock once wakes up at a later reading. -/
  | wake (task : Nat) (began now : Int64)
  | cancel
  /-- A task finds itself cancelled. -/
  | abandon (task : Nat)
deriving DecidableEq, Repr

/-- The task has slept for as long as it meant to when it read the clock. The clock did not show a
time so far before 1970 that the distance does not fit a word. -/
def Slept (request : HeaderRequest) (began now : Int64) : Prop :=
  request.schedule.atMs.toInt - began.toInt ≤ Int64.maxValue.toInt
    ∧ began.toInt + sleepMs request.schedule.atMs began ≤ now.toInt

instance (request : HeaderRequest) (began now : Int64) : Decidable (Slept request began now) :=
  inferInstanceAs (Decidable (_ ∧ _))

/-- The follower and the tasks that it set off. -/
structure Scene (σ : Type) where
  follower : Follower σ
  isCancelled : Bool := false
  /-- What was scheduled, in order. -/
  schedules : List Schedule := []
  /-- The requests of the tasks that are not done. -/
  waiting : List HeaderRequest := []
  /-- The requests made, with the time. -/
  made : List (HeaderRequest × Int64) := []
  /-- The requests of the tasks that found themselves cancelled. -/
  dropped : List HeaderRequest := []

namespace Scene

variable {σ ε φ : Type}

/-- Sets off the tasks for what the follower schedules. -/
def setOff (relays : List Relay.Entry) (acts : List FollowerAct) (scene : Scene σ) : Scene σ :=
  let schedules := acts.filterMap FollowerAct.schedule?
  { scene with
    schedules := scene.schedules ++ schedules
    waiting := scene.waiting ++ schedules.flatMap (·.requests relays) }

/-- Lets the follower take an event. Answers what it does. -/
def tell (node : Node σ ε) (relays : List Relay.Entry) (event : FollowerEvent φ)
    (scene : Scene σ) : List FollowerAct × Scene σ :=
  let (acts, follower) := scene.follower.take node event
  (acts, { scene with follower := follower }.setOff relays acts)

/-- Lets a task wake up. Answers the request that it makes, if there is such a task and it has slept
enough. -/
def wake (task : Nat) (began now : Int64) (scene : Scene σ) : Option HeaderRequest × Scene σ :=
  match scene.waiting[task]? with
  | some request =>
    if Slept request began now then
      (some request, { scene with
        waiting := scene.waiting.eraseIdx task
        made := scene.made ++ [(request, now)] })
    else (none, scene)
  | none => (none, scene)

/-- Cancels the tasks. -/
def cancel (scene : Scene σ) : Scene σ := { scene with isCancelled := true }

/-- Lets a task find itself cancelled, if there is such a task and it is. -/
def abandon (task : Nat) (scene : Scene σ) : Scene σ :=
  match scene.isCancelled, scene.waiting[task]? with
  | true, some request =>
    { scene with
      waiting := scene.waiting.eraseIdx task
      dropped := request :: scene.dropped }
  | _, _ => scene

/-- Lets all tasks find themselves cancelled. -/
def abandonAll (scene : Scene σ) : Scene σ :=
  scene.waiting.foldl (fun scene _ => scene.abandon 0) scene

/-- Goes through an incident. One that cannot come about changes nothing. -/
def meet (node : Node σ ε) (relays : List Relay.Entry) (scene : Scene σ) : Incident → Scene σ
  | .news news => (scene.tell node relays news.meaning).2
  | .wake task began now => (scene.wake task began now).2
  | .cancel => scene.cancel
  | .abandon task => scene.abandon task

/-- Goes through incidents in order. -/
def play (node : Node σ ε) (relays : List Relay.Entry) (scene : Scene σ)
    (incidents : List Incident) : Scene σ :=
  incidents.foldl (meet node relays) scene

/-- The follower of the heads of a server that replies as given, and its tasks, after incidents. -/
def after (base : String) (reply : Beacon.Question → σ → Http.Reply × σ)
    (relays : List Relay.Entry) (s : σ) (incidents : List Incident) : Scene σ :=
  play (Node.overHttp base reply) relays { follower := { node := s } } incidents

end Scene

end BidArchive.Feed
