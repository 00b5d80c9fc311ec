import BidArchive.Text.Blank

/-!
# Sources of bids

Bids come from three sources: headers that relays offer a proposer on request, the listings of
their data interface, and the top bid stream of one relay. Each goes by a name in settings and in
the output.
-/

namespace BidArchive

/-- Where a bid was learnt of. -/
inductive Source
  | getHeader
  | dataApi
  | ultrasoundStream
deriving DecidableEq, Repr

namespace Source

/-- All sources, in the order in which they are offered. -/
def all : List Source := [.getHeader, .dataApi, .ultrasoundStream]

/-- The name of the source. -/
def text : Source → String
  | .getHeader => "get-header"
  | .dataApi => "data-api"
  | .ultrasoundStream => "ultrasound-stream"

/-- The source of the given name, blanks around it aside. -/
def ofText? (s : String) : Option Source := all.find? fun source => source.text == Text.trimmed s

/-- The complaint about a name that no source has. -/
def unknownMessage (s : String) : String := "unknown bid source: " ++ s

end Source

end BidArchive
