import BidArchive.Number.Decimal
import BidArchive.Archive.Bucket
import BidArchive.Bid.Source
import BidArchive.Feed.KnownErrors
import BidArchive.Relay.Entry

/-!
# Settings

What a collector is told to do. The standard settings collect from the relays of the main network
and from all sources, of which header requests need a beacon node to be given as well.
-/

namespace BidArchive

/-- The settings of a collector. -/
structure Settings where
  beaconUrl : Option String := none
  relays : List Relay.Entry := Relay.Entry.standard
  streamUrl : String := "ws://relay-builders-eu.ultrasound.money/ws/v1/top_bid"
  /-- The relay that the bids of the stream are noted for. -/
  streamRelay : String := "relay.ultrasound.money"
  sources : List Source := Source.all
  httpTimeoutMs : UInt64 := 5000
  housekeepingMs : Nat := 30000
  knownErrors : Feed.KnownErrors := .standard
  layout : Layout := {}
deriving DecidableEq, Repr

/-- Why settings cannot be worked with, or cannot be read. -/
inductive SettingsFault
  | badRelay (cause : Relay.EntryFault)
  | badSource (name : String)
  | badTable (cause : Feed.TableFault)
  | badFlag (key value : String)
  | badNumber (key : String) (cause : Decimal.Fault)
  | noSources
  | bucketNotPositive (seconds : Int64)
  | noBeaconUrl
  | noRelays
deriving DecidableEq, Repr

/-- The wording of a fault: what is wrong, and its causes behind it. -/
def SettingsFault.chain : SettingsFault → List String
  | .badRelay cause => "invalid RELAY_URLS" :: cause.chain
  | .badSource name => ["invalid BIDS_SOURCES", Source.unknownMessage name]
  | .badTable cause => ["invalid GET_HEADER_KNOWN_ERRORS", cause.message]
  | .badFlag key value => ["invalid bool value " ++ value ++ " for " ++ key]
  | .badNumber key cause => ["invalid value for " ++ key ++ ": " ++ cause.message]
  | .noSources => ["no bid sources enabled"]
  | .bucketNotPositive seconds =>
    ["bucket seconds must be positive, got " ++ seconds.toInt.repr]
  | .noBeaconUrl => ["BEACON_URL is required to collect get-header bids"]
  | .noRelays => ["no relays configured to poll"]

/-- The wording of a fault on one line. -/
def SettingsFault.message (fault : SettingsFault) : String := ": ".intercalate fault.chain

namespace Settings

/-- The settings that hold where nothing else is said. -/
def standard : Settings := {}

/-- Bids are collected from the source. -/
def isEnabled (settings : Settings) (source : Source) : Bool := settings.sources.contains source

/-- The first thing that is wrong with the settings. -/
def fault? (settings : Settings) : Option SettingsFault :=
  if settings.sources.isEmpty then some .noSources
  else if settings.layout.bucketSeconds.toInt ≤ 0 then
    some (.bucketNotPositive settings.layout.bucketSeconds)
  else if settings.isEnabled .getHeader && settings.beaconUrl.isNone then some .noBeaconUrl
  else if (settings.isEnabled .getHeader || settings.isEnabled .dataApi)
      && settings.relays.isEmpty then
    some .noRelays
  else none

end Settings

end BidArchive
