import BidArchive.Beacon.Node
import BidArchive.Http.EventStream
import BidArchive.Http.Reply

/-!
# Asking beacon nodes

Where a beacon node is asked for duties, for blocks and for the events of new heads, and what its
replies mean. Duties and events are there with every status that is not an error, a block only with
plain success; a block that is not found counts as one without a payload.
-/

namespace BidArchive.Beacon

open Chain (Epoch)

/-- The base of the URLs of a beacon node: its URL without the slashes at its end. -/
def baseOf (url : String) : String := Url.withoutSlashes url

/-- Where a node sends the events of new heads. -/
def headsUrl (base : String) : String := base ++ "/eth/v1/events?topics=head"

/-- Where a node lists the proposers of an epoch. -/
def dutiesUrl (base : String) (epoch : Epoch) : String :=
  base ++ "/eth/v1/validator/duties/proposer/" ++ epoch.text

/-- Where a node hands out the block with a root. -/
def blockUrl (base : String) (root : String) : String := base ++ "/eth/v2/beacon/blocks/" ++ root

/-- Why a node did not answer a question. -/
inductive NodeFault
  | unreachable (url : String)
  | status (status : Http.Status)
  | undecodable (cause : Json.Fault)
  | noBlock (root : String) (status : Http.Status) (url : String)
deriving DecidableEq, Repr

/-- The wording of a fault that is the node's own. -/
def NodeFault.message : NodeFault → String
  | .unreachable url => Http.unreachableMessage url
  | .status code => "status " ++ code.text
  | .undecodable cause => cause.message
  | .noBlock root code url =>
    "failed to fetch block by block_root. block_root = " ++ root ++ " status = " ++ code.text
      ++ " url = " ++ Http.requestText url

/-- The duties that a node replies with. -/
def readDuties (base : String) (epoch : Epoch) : Http.Reply → Except NodeFault (List Duty)
  | .unreachable => .error (.unreachable (dutiesUrl base epoch))
  | .response response =>
    if response.status.isError then .error (.status response.status)
    else (response.json dutiesDecoder).mapError .undecodable

/-- The hash of the execution payload of the block that a node replies with. -/
def readBlockHash (base : String) (root : String) :
    Http.Reply → Except NodeFault (Option String)
  | .unreachable => .error (.unreachable (blockUrl base root))
  | .response response =>
    if response.status = .notFound then .ok none
    else if response.status = .ok then (response.json blockHashDecoder).mapError .undecodable
    else .error (.noBlock root response.status (blockUrl base root))

/-- The node behind a server that replies to its questions. -/
def Node.overHttp {σ : Type} (base : String) (reply : Question → σ → Http.Reply × σ) :
    Node σ NodeFault where
  duties epoch state :=
    let (reply, state) := reply (.duties epoch) state
    (readDuties base epoch reply, state)
  blockHash root state :=
    let (reply, state) := reply (.blockHash root) state
    (readBlockHash base root reply, state)

/-- Why an event is no head. -/
inductive HeadFault
  | undecodable (data : String) (cause : Json.Fault)
  /-- The stream holds bytes that are no text. -/
  | unreadable
deriving DecidableEq, Repr

/-- The wording of a fault, without its causes. -/
def HeadFault.message : HeadFault → String
  | .undecodable data _ => "failed to decode head event: " ++ data
  | .unreadable => "failed to read head event stream: not UTF-8"

/-- Reads a head from the data of an event. -/
def readHead (data : String) : Except HeadFault Head :=
  (Json.decode Head.schema.decoder data).mapError (.undecodable data)

/-- The heads of a stream of events, of which other kinds and empty ones are passed over. Nothing
is read behind bytes that are no text. -/
def readEvents (bytes : List UInt8) : List (Except HeadFault Head) :=
  let pieces := Text.Utf8.pieces bytes
  let text := (pieces.takeWhile Option.isSome).filterMap id
  let events := (Http.EventStream.events text).filter fun event =>
    event.name = "head" && !event.data.isEmpty
  events.map (fun event => readHead event.data)
    ++ if pieces.all Option.isSome then [] else [.error .unreadable]

/-- The heads that a node replies with. -/
def readHeads (base : String) : Http.Reply → Except NodeFault (List (Except HeadFault Head))
  | .unreachable => .error (.unreachable (headsUrl base))
  | .response response =>
    if response.status.isError then .error (.status response.status)
    else .ok (readEvents response.body)

end BidArchive.Beacon
