import BidArchive.Http.Reply
import BidArchive.Relay.Answer
import BidArchive.Relay.Entry
import BidArchive.Relay.Trace

/-!
# Asking relays

Where a relay is asked for the traces of a slot and for a header, and what its replies mean. Only a
status of plain success carries what was asked for.
-/

namespace BidArchive.Relay

open Chain (Slot)

/-- Where a relay lists the bids that it received for a slot. -/
def Entry.tracesUrl (relay : Entry) (slot : Slot) : String :=
  relay.base ++ "/relay/v1/data/bidtraces/builder_blocks_received?slot="
    ++ String.ofList (Url.encodedValue slot.text.toList)

/-- Where a relay is asked for the header that it would hand to a proposer. -/
def Entry.headerUrl (relay : Entry) (slot : Slot) (parentHash proposer : String) : String :=
  "/".intercalate [relay.base ++ "/eth/v1/builder/header", slot.text, parentHash, proposer]

/-- Why there are no traces. -/
inductive TracesFault
  | unreachable (url : String)
  | undecodable (url : String) (cause : Json.Fault)
  | status (relay : String) (status : Http.Status) (url : String)
deriving DecidableEq, Repr

/-- The wording of a fault, without its causes. -/
def TracesFault.message : TracesFault → String
  | .unreachable url => Http.unreachableMessage url
  | .undecodable url _ => "failed to decode bid traces from " ++ url
  | .status relay code url =>
    "failed to fetch builder bids. relay = " ++ relay ++ " status = " ++ code.text
      ++ " url = " ++ url

/-- The traces that a relay replies with. -/
def Entry.readTraces (relay : Entry) (slot : Slot) (reply : Http.Reply) :
    Except TracesFault (List Trace) :=
  let url := relay.tracesUrl slot
  match reply with
  | .unreachable => .error (.unreachable url)
  | .response response =>
    if response.status = .ok then
      (response.json (Json.list Trace.decoder)).mapError (.undecodable url)
    else .error (.status relay.hostname response.status url)

/-- The offer that a relay replies with. -/
def Entry.readHeader (relay : Entry) (slot : Slot) (parentHash proposer : String)
    (reply : Http.Reply) : Except HeaderFault Offer :=
  match reply with
  | .unreachable =>
    .error (.transport (Http.unreachableMessage (relay.headerUrl slot parentHash proposer)))
  | .response response =>
    if response.status = .noContent then .error .noContent
    else if response.status = .ok then
      (response.json Offer.answerDecoder).mapError .undecodable
    else .error (.status response.status response.text)

end BidArchive.Relay
