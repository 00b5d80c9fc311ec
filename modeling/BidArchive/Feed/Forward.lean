import BidArchive.Feed.Retry
import BidArchive.Feed.TopBid
import BidArchive.Notice

/-!
# Forwarding top bids

While a connection to the top bid stream is open, every frame that holds a top bid is handed on as a
batch of one. Other frames and frames that cannot be read are passed over. The connection ends
with a frame that closes it, with a failure to read, or where there is nothing more to read; and
forwarding stops for good when nobody takes the batches any more.
-/

namespace BidArchive.Feed

/-- What comes in over a connection. -/
inductive Item
  | binary (bytes : List UInt8)
  | text (text : String)
  | ping
  | pong
  | close
  | failure (cause : String)
deriving DecidableEq, Repr

/-- How a connection ended. -/
inductive StreamEnd
  /-- Nobody takes batches any more. -/
  | stopped
  | closed
  | failed (cause : String)
deriving DecidableEq, Repr

/-- A connection gone through: the batches handed on, what there is to report, and its end. -/
structure Forwarded where
  batches : List (List Bid)
  notices : List Notice
  outcome : StreamEnd
deriving DecidableEq, Repr

namespace Forwarded

/-- The bids handed on. -/
def bids (f : Forwarded) : List Bid := f.batches.flatten

/-- Puts a notice in front. -/
def after (notice : Notice) (f : Forwarded) : Forwarded :=
  { f with notices := notice :: f.notices }

/-- Puts a batch in front. -/
def behind (batch : List Bid) (f : Forwarded) : Forwarded :=
  { f with batches := batch :: f.batches }

end Forwarded

/-- Goes through the items of a connection, each with the time at which it is read. Batches are
taken as long as `capacity` lasts, and without end if there is none. -/
def forwardTimed (relay : String) (capacity : Option Nat) : List (Int64 × Item) → Forwarded
  | [] => ⟨[], [], .closed⟩
  | (_, .close) :: _ => ⟨[], [], .closed⟩
  | (_, .failure cause) :: _ => ⟨[], [], .failed cause⟩
  | (readAtMs, .binary bytes) :: rest =>
    match TopBid.ofFrame bytes with
    | .error _ => (forwardTimed relay capacity rest).after .frameDropped
    | .ok top =>
      let notice := Notice.topBidReceived top.slot top.value
      match capacity with
      | some 0 => ⟨[], [notice, .streamDropped], .stopped⟩
      | _ =>
        ((forwardTimed relay (capacity.map (· - 1)) rest).behind
          [Bid.ofTopBid top relay readAtMs]).after notice
  | _ :: rest => forwardTimed relay capacity rest

/-- Goes through the items of a connection that are all read at one time. -/
def forward (relay : String) (nowMs : Int64) (capacity : Option Nat) (items : List Item) :
    Forwarded :=
  forwardTimed relay capacity (items.map fun item => (nowMs, item))

/-- What the end of a connection has to report. -/
def StreamEnd.notices : StreamEnd → List Notice
  | .stopped => []
  | .closed => [.streamClosed]
  | .failed _ => [.streamFailed]

end BidArchive.Feed
