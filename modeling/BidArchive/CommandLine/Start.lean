import BidArchive.CommandLine.Options
import BidArchive.Settings.Read

/-!
# Starting

The program sets up its log, reads its arguments, then the environment, lets the arguments override
what the environment says, and checks the result. Whatever goes wrong first decides how it exits.
-/

namespace BidArchive.CommandLine

/-- What starting the program leads to. -/
inductive Start
  /-- The settings can be worked with. -/
  | ready (settings : Settings)
  /-- Help or the version was asked for. -/
  | answered
  | wrongArguments
  | faulty (fault : SettingsFault)
  | crashed
deriving DecidableEq, Repr

/-- The settings with the options that override them. A directory that is no text is kept as far as
it can be shown. -/
def Options.override (options : Options) (settings : Settings) : Settings :=
  let layout := settings.layout
  { settings with
    sources := options.sources.getD settings.sources
    layout := { layout with
      directory :=
        match options.directory with
        | some bytes => String.ofList (Text.Utf8.decodeLossy bytes)
        | none => layout.directory
      tabs := options.tabs || layout.tabs
      uid := options.uid.or layout.uid } }

/-- What a halt while settings are read leads to. -/
def Start.ofHalt : Halt SettingsFault → Start
  | .failed fault => .faulty fault
  | .crashed => .crashed

/-- Starts the program. -/
def start (arguments : List (List UInt8)) (env : Environment) : Start :=
  match Settings.logFlags env with
  | .error halt => .ofHalt halt
  | .ok _ =>
    match Options.read arguments with
    | .error .answered => .answered
    | .error .wrong => .wrongArguments
    | .ok options =>
      match Settings.ofEnvironment env with
      | .error halt => .ofHalt halt
      | .ok settings =>
        let settings := options.override settings
        match settings.fault? with
        | some fault => .faulty fault
        | none => .ready settings

/-- The code that the program exits with. -/
def Start.exitCode : Start → UInt32
  | .ready _ => 0
  | .answered => 0
  | .faulty _ => 1
  | .wrongArguments => 2
  | .crashed => 101

/-- A text with `indent` before every line but the first. -/
def indented (indent : String) (text : String) : String :=
  String.ofList (text.toList.flatMap fun c => if c = '\n' then '\n' :: indent.toList else [c])

/-- The causes of a fault, one below the other. Several are numbered. -/
def causesText (causes : List String) : String :=
  match causes with
  | [] => ""
  | [cause] => "\n\nCaused by:\n    " ++ indented "    " cause
  | causes =>
    "\n\nCaused by:" ++ String.join (causes.zipIdx.map fun (cause, n) =>
      "\n    " ++ n.repr ++ ": " ++ indented "       " cause)

/-- What the program says on its way out. -/
def Start.complaint : Start → String
  | .faulty fault =>
    match fault.chain with
    | headline :: causes => "Error: " ++ headline ++ causesText causes ++ "\n"
    | [] => ""
  | _ => ""

end BidArchive.CommandLine
