import BidArchive.Beacon.Node
import BidArchive.Rehearsal.Sink
import BidArchive.Relay.Answer
import BidArchive.Relay.Entry
import BidArchive.Relay.Trace

/-!
# Scripts

What relays and a beacon node are going to answer in a rehearsal. A relay takes its time for every
answer; it has its answers to polls in order and its answers to header requests by slot. A beacon
node answers at once; subscriptions and the duties of an epoch are answered in order.
-/

namespace BidArchive.Rehearsal

open Chain (Slot Epoch)

/-- What a relay is going to answer. -/
structure RelayScript where
  entry : Relay.Entry
  delayMs : Nat
  /-- The answers to polls. Further polls are answered with no traces. -/
  traces : List (Except String (List Relay.Trace))
  /-- The answers to header requests. For all other slots there is no offer. -/
  headers : List (Slot × Except Relay.HeaderFault Relay.Offer)

/-- The answer to a poll that comes after so many others. -/
def RelayScript.poll (script : RelayScript) (count : Nat) : Except String (List Relay.Trace) :=
  (script.traces[count]?).getD (.ok [])

/-- The answer to a header request. -/
def RelayScript.header (script : RelayScript) (slot : Slot) :
    Except Relay.HeaderFault Relay.Offer :=
  match script.headers.find? (·.1 = slot) with
  | some (_, answer) => answer
  | none => .error .noContent

/-- A head that a subscription delivers, so long after the one before was dealt with. -/
structure HeadScript where
  afterMs : Nat
  head : Except String Beacon.Head

/-- A subscription: its heads, and whether it stays open in silence behind them. -/
structure Subscription where
  heads : List HeadScript
  holds : Bool

/-- What a beacon node is going to answer. -/
structure BeaconScript where
  subscriptions : List (Except String Subscription) := []
  duties : List (Epoch × List (Except String (List Beacon.Duty))) := []
  blocks : List (String × Except String (Option String)) := []

namespace BeaconScript

/-- The answer to a subscription that comes after so many others. Further ones stay silent. -/
def subscribe (script : BeaconScript) (count : Nat) : Except String Subscription :=
  (script.subscriptions[count]?).getD (.ok ⟨[], true⟩)

/-- The answer to a question for duties that was asked so often before. The last answer is
repeated. -/
def answerDuties (script : BeaconScript) (epoch : Epoch) (count : Nat) :
    Except String (List Beacon.Duty) :=
  match script.duties.find? (·.1 = epoch) with
  | some (_, answers) => ((answers.drop count).head?.or answers.getLast?).getD (.ok [])
  | none => .ok []

/-- The answer to a question for a block. -/
def answerBlock (script : BeaconScript) (root : String) : Except String (Option String) :=
  match script.blocks.find? (·.1 = root) with
  | some (_, answer) => answer
  | none => .ok none

/-- The node that answers as scripted. Its states are the questions asked, the last one first. -/
def node (script : BeaconScript) : Beacon.Node (List Beacon.Question) String where
  duties epoch asked :=
    (script.answerDuties epoch (asked.count (.duties epoch)), .duties epoch :: asked)
  blockHash root asked := (script.answerBlock root, .blockHash root :: asked)

end BeaconScript

end BidArchive.Rehearsal
