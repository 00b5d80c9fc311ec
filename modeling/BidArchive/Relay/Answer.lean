import BidArchive.Http.Status
import BidArchive.Relay.Header

/-!
# Answers to header requests

A relay answers a header request with an offer, or says that it has none, or fails in one of
several ways. The wording of a failure matters, because some failures are told from others by it.
-/

namespace BidArchive.Relay

/-- Why there is no offer. -/
inductive HeaderFault
  | noContent
  | status (code : Http.Status) (body : String)
  /-- The relay could not be asked. -/
  | transport (cause : String)
  /-- The answer is no offer. -/
  | undecodable (cause : Json.Fault)
deriving DecidableEq, Repr

/-- The wording of a fault. -/
def HeaderFault.message : HeaderFault → String
  | .noContent => "relay has no bid (204 no content)"
  | .status code body => "relay responded with status " ++ code.text ++ ": " ++ body
  | .transport cause => "request failed: " ++ cause
  | .undecodable cause => "failed to decode header response: " ++ cause.message

/-- The wording of a fault as far as it is reported. What could not be decoded is not quoted. -/
def HeaderFault.report? : HeaderFault → Option String
  | .undecodable _ => none
  | fault => some fault.message

end BidArchive.Relay
