import BidArchive.Http.Charset
import BidArchive.Http.Status
import BidArchive.Json.Decode
import BidArchive.Url.Basic

/-!
# Replies

A request either reaches a server, which answers it with a status and a body, or reaches nobody.
What a body means is decided by whoever asked.
-/

namespace BidArchive.Http

/-- The answer of a server. -/
structure Response where
  status : Status
  contentType : Option String := none
  body : List UInt8 := []
deriving DecidableEq, Repr

/-- What comes of a request. -/
inductive Reply
  /-- Nobody answers. -/
  | unreachable
  | response (response : Response)
deriving DecidableEq, Repr

/-- The body as text. -/
def Response.text (response : Response) : String :=
  (Charset.ofContentType response.contentType).bodyText response.body

/-- The body as a value in JSON. -/
def Response.json {α : Type} (decoder : Json.Decoder α) (response : Response) :
    Except Json.Fault α :=
  Json.decodeBytes decoder response.body

/-- A URL as requests are made for it, in normal form. -/
def requestText (url : String) : String :=
  match Url.read url with
  | .ok url => url.text
  | .error _ => url

/-- The wording of a request that reached nobody. -/
def unreachableMessage (url : String) : String :=
  "error sending request for url (" ++ requestText url ++ ")"

end BidArchive.Http
