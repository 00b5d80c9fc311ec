import BidArchive.Text.Lower
import BidArchive.Url.Basic

/-!
# Relay entries

A relay is given as a URL whose user name, if there is one, is the key that the relay signs with.
What is kept is the host name, which stands for the relay in output and messages, and the base of
the URLs that the relay is asked under, without credentials or a slash at its end.
-/

namespace BidArchive.Relay

/-- Where to find a relay. -/
structure Entry where
  hostname : String
  /-- The base of its URLs. -/
  base : String
  pubkey : Option String
deriving DecidableEq, Repr

/-- Why a text is no relay entry. -/
inductive EntryFault
  | notUrl (text : String) (cause : Url.Fault)
  | noHost (text : String)
deriving DecidableEq, Repr

/-- The wording of a fault: what is wrong, and its causes behind it. -/
def EntryFault.chain : EntryFault → List String
  | .notUrl text cause => ["invalid relay url: " ++ text, cause.message]
  | .noHost text => ["relay url is missing a host: " ++ text]

/-- The wording of a fault on one line. -/
def EntryFault.message (fault : EntryFault) : String := ": ".intercalate fault.chain

namespace Entry

/-- The relay that a URL leads to. -/
def ofUrl? (url : Url) : Option Entry :=
  url.host.map fun host =>
    { hostname := host
      base := url.scheme ++ "://" ++ url.authority ++ Url.withoutSlashes url.path
      pubkey := if url.user.isEmpty then none else some (Text.lowered url.user) }

/-- Reads an entry, blanks around it aside. -/
def ofText (text : String) : Except EntryFault Entry :=
  match Url.read (Text.trimmed text) with
  | .error cause => .error (.notUrl text cause)
  | .ok url =>
    match ofUrl? url with
    | some entry => .ok entry
    | none => .error (.noHost text)

/-- A relay that is reached under its host name alone. -/
def plain (hostname : String) (pubkey : Option String) : Entry :=
  ⟨hostname, "https://" ++ hostname, pubkey⟩

/-- The relays that are collected from when none are given. -/
def standard : List Entry := [
  plain "boost-relay.flashbots.net"
    (some ("0xac6e77dfe25ecd6110b8e780608cce0dab71fdd5ebea22a16c0205200f2f8e2e"
      ++ "3ad3b71d3499c54ad14d6c21b41a37ae")),
  plain "relay.ultrasound.money"
    (some ("0xa1559ace749633b997cb3fdacffb890aeebdb0f5a3b6aaa7eeeaf1a38af0a8fe"
      ++ "88b9e4b1f61f236d2e64d95733327a62")),
  plain "aestus.live" none,
  plain "agnostic-relay.net" none,
  plain "bloxroute.max-profit.blxrbdn.com" none,
  plain "bloxroute.regulated.blxrbdn.com" none,
  plain "titanrelay.xyz" none]

end Entry

end BidArchive.Relay
