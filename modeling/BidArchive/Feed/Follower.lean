import BidArchive.Feed.Heads
import BidArchive.Feed.Retry

/-!
# Following heads

The follower of heads subscribes to them at the beacon node and deals with all that a subscription
delivers. When a subscription ends, or could not be made, it makes the next one after a delay. What
it remembers of heads outlives its subscriptions.
-/

namespace BidArchive.Feed

/-- What happens to a follower. -/
inductive FollowerEvent (φ : Type)
  | subscribed
  /-- It could not subscribe. -/
  | refused
  /-- The subscription delivers a head, or what could not be read as one. -/
  | delivered (head : Except φ Beacon.Head)
  /-- The subscription ends. -/
  | ended

/-- What a follower does. -/
inductive FollowerAct
  | notice (notice : Notice)
  /-- Has the headers of a slot requested, one from each relay. -/
  | schedule (schedule : Schedule)
  /-- Waits for some time and subscribes again. -/
  | resubscribe (delayMs : Nat)
deriving DecidableEq, Repr

namespace FollowerAct

/-- What is reported. -/
def notice? : FollowerAct → Option Notice
  | .notice n => some n
  | _ => none

/-- What is scheduled. -/
def schedule? : FollowerAct → Option Schedule
  | .schedule s => some s
  | _ => none

/-- How long until the next subscription. -/
def delay? : FollowerAct → Option Nat
  | .resubscribe ms => some ms
  | _ => none

end FollowerAct

/-- A follower with a beacon node that is in a state of `σ`. -/
structure Follower (σ : Type) where
  heads : HeadState := {}
  retry : Retry := .fresh
  /-- A calculation did not fit a word. -/
  isCrashed : Bool := false
  node : σ
deriving DecidableEq, Repr

namespace Follower

variable {σ ε φ : Type}

/-- Waits before the next subscription. -/
def backOff (reason : Notice) (f : Follower σ) : List FollowerAct × Follower σ :=
  let (delay, retry) := f.retry.next
  ([.notice reason, .notice (.resubscribing (delay / 1000)), .resubscribe delay],
    { f with retry := retry })

/-- Deals with a head. -/
def follow (node : Beacon.Node σ ε) (head : Beacon.Head) (f : Follower σ) :
    List FollowerAct × Follower σ :=
  let taken := f.heads.take node head f.node
  let f := { f with heads := taken.state, node := taken.node }
  let notices := taken.notices.map .notice
  match taken.outcome with
  | .scheduled schedule => (notices ++ [.schedule schedule], f)
  | .skipped => (notices, f)
  | .crashed => (notices, { f with isCrashed := true })

/-- Takes an event. -/
def take (node : Beacon.Node σ ε) (event : FollowerEvent φ) (f : Follower σ) :
    List FollowerAct × Follower σ :=
  if f.isCrashed then ([], f)
  else
    match event with
    | .subscribed => ([], { f with retry := f.retry.reset })
    | .refused => f.backOff .subscribeFailed
    | .delivered (.error _) => ([.notice .badHead], f)
    | .delivered (.ok head) => f.follow node head
    | .ended => f.backOff .headsEnded

end Follower

end BidArchive.Feed
