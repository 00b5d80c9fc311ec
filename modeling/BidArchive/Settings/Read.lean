import BidArchive.Bid.Recorder
import BidArchive.Settings.Basic
import BidArchive.Settings.Environment

/-!
# Reading settings

Every setting has a variable of the environment, and holds as in the standard settings where the
variable is not set. The variables are read in a fixed order, and the first that cannot be read
decides what is reported. What is read is not checked for making sense together, because arguments
may still change it.
-/

namespace BidArchive.Settings

/-- A reading of settings: it may fail with a fault or stop the program. -/
abbrev Read := Except (Halt SettingsFault)

/-- Reads a variable. -/
def lookUp (env : Environment) (key : String) : Read (Option String) :=
  match env.get key with
  | .ok value => .ok value
  | .crashed => .error .crashed

/-- Reads a variable by a rule, if it is set. -/
def readBy {α : Type} (env : Environment) (key : String)
    (rule : String → Except SettingsFault α) : Read (Option α) := do
  match ← lookUp env key with
  | none => return none
  | some text =>
    match rule text with
    | .ok a => return some a
    | .error fault => throw (.failed fault)

/-- Reads relays. -/
def relaysRule (text : String) : Except SettingsFault (List Relay.Entry) :=
  (listParts text).mapM fun part => (Relay.Entry.ofText part).mapError .badRelay

/-- Reads sources. -/
def sourcesRule (text : String) : Except SettingsFault (List Source) :=
  (listParts text).mapM fun part =>
    match Source.ofText? part with
    | some source => .ok source
    | none => .error (.badSource part)

/-- Reads a table of known errors. -/
def tableRule (text : String) : Except SettingsFault Feed.KnownErrors :=
  (Feed.KnownErrors.read text).mapError .badTable

/-- Reads a truth value. -/
def flagRule (key text : String) : Except SettingsFault Bool :=
  let text := Text.lowered text
  match truthValue? text with
  | some b => .ok b
  | none => .error (.badFlag key text)

/-- Reads a signed word, blanks around it aside. -/
def signedRule (key text : String) : Except SettingsFault Int64 :=
  (Decimal.signed (Text.trimmed text)).mapError (.badNumber key)

/-- Reads an unsigned word, blanks around it aside. -/
def unsignedRule (key text : String) : Except SettingsFault UInt64 :=
  (Decimal.unsigned (Text.trimmed text)).mapError (.badNumber key)

/-- Reads the settings. -/
def ofEnvironment (env : Environment) : Read Settings := do
  let relays ← readBy env "RELAY_URLS" relaysRule
  let sources ← readBy env "BIDS_SOURCES" sourcesRule
  let table ← readBy env "GET_HEADER_KNOWN_ERRORS" tableRule
  let beaconUrl ← lookUp env "BEACON_URL"
  let streamUrl ← lookUp env "ULTRASOUND_STREAM_URL"
  let directory ← lookUp env "BIDS_OUT_DIR"
  let tabs ← readBy env "BIDS_OUTPUT_TSV" (flagRule "BIDS_OUTPUT_TSV")
  let bucketSeconds ← readBy env "BIDS_BUCKET_SECONDS" (signedRule "BIDS_BUCKET_SECONDS")
  let uid ← lookUp env "BIDS_UID"
  let timeout ← readBy env "BIDS_HTTP_TIMEOUT_MS" (unsignedRule "BIDS_HTTP_TIMEOUT_MS")
  let d := standard
  return {
    beaconUrl := beaconUrl
    relays := relays.getD d.relays
    streamUrl := streamUrl.getD d.streamUrl
    streamRelay := d.streamRelay
    sources := sources.getD d.sources
    httpTimeoutMs := timeout.getD d.httpTimeoutMs
    housekeepingMs := d.housekeepingMs
    knownErrors := table.getD d.knownErrors
    layout := {
      directory := directory.getD d.layout.directory
      bucketSeconds := bucketSeconds.getD d.layout.bucketSeconds
      uid := uid.filter fun uid => !(Text.trim uid.toList).isEmpty
      tabs := tabs.getD d.layout.tabs } }

/-- Reads a truth value of which nothing but the reading matters: one that is wrong counts as not
set. -/
def looseFlag (env : Environment) (key : String) : Read Bool := do
  match ← lookUp env key with
  | none => return false
  | some text => return (flagRule key text).toOption.getD false

/-- How the log is written: as JSON, and with the times that calculations take. It is set up before
anything else, so that it cannot fail but by stopping the program. -/
def logFlags (env : Environment) : Read (Bool × Bool) := do
  let json ← looseFlag env "LOG_JSON"
  let perf ← looseFlag env "LOG_PERF"
  return (json, perf)

end BidArchive.Settings
