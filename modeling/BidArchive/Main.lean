import BidArchive.CommandLine.Start

/-!
# The command line

Reads arguments and environment and says what keeps a collector from starting. The connections to
relays and beacon nodes are left to the program that the collector is built into.
-/

namespace BidArchive.CommandLine

/-- The variables that settings are read from. -/
def settingNames : List String :=
  ["LOG_JSON", "LOG_PERF", "RELAY_URLS", "BIDS_SOURCES", "GET_HEADER_KNOWN_ERRORS", "BEACON_URL",
    "ULTRASOUND_STREAM_URL", "BIDS_OUT_DIR", "BIDS_OUTPUT_TSV", "BIDS_BUCKET_SECONDS", "BIDS_UID",
    "BIDS_HTTP_TIMEOUT_MS"]

/-- The environment that the program runs in. -/
def environment : IO Environment := do
  let bindings ← settingNames.filterMapM fun name => do
    let value ← IO.getEnv name
    return value.map fun value => (name, value.toUTF8.toList)
  return ⟨bindings⟩

end BidArchive.CommandLine

open BidArchive.CommandLine

/-- Checks the settings. -/
def main (arguments : List String) : IO UInt32 := do
  let outcome := start (arguments.map fun a => a.toUTF8.toList) (← environment)
  IO.eprint outcome.complaint
  return outcome.exitCode
