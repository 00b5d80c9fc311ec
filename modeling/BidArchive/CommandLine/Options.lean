import BidArchive.Bid.Source
import BidArchive.Text.Blank
import BidArchive.Text.Utf8

/-!
# Options

The arguments that override settings. An option takes its value from behind an equals sign or from
the next argument, which must not begin with a hyphen unless it is nothing else. Sources are
separated by commas and add up over several options; every other option may be given once. A
request for help or for the version ends the reading where it stands, so that only what is wrong
before it counts.

Arguments are bytes. Only the directory may be something else than text.
-/

namespace BidArchive.CommandLine

/-- What the arguments say. -/
structure Options where
  directory : Option (List UInt8) := none
  tabs : Bool := false
  sources : Option (List Source) := none
  uid : Option String := none
deriving DecidableEq, Repr

/-- Why the reading of arguments ended early. -/
inductive Halted
  /-- Help or the version was asked for. -/
  | answered
  /-- The arguments are wrong. -/
  | wrong
deriving DecidableEq, Repr

/-- An option that takes a value. -/
inductive Name
  | directory
  | sources
  | uid
deriving DecidableEq, Repr

/-- The option of the given name. -/
def Name.ofText? (text : String) : Option Name :=
  if text = "out-dir" then some .directory
  else if text = "sources" then some .sources
  else if text = "uid" then some .uid
  else none

/-- The text of an argument. -/
def text? (bytes : List UInt8) : Option String := (Text.Utf8.decode? bytes).map String.ofList

namespace Options

/-- Takes an option with its value. -/
def set (options : Options) (name : Name) (value : List UInt8) : Except Halted Options :=
  match name with
  | .directory =>
    if options.directory.isSome ∨ value.isEmpty then .error .wrong
    else .ok { options with directory := some value }
  | .uid =>
    match options.uid, text? value with
    | none, some uid => .ok { options with uid := some uid }
    | _, _ => .error .wrong
  | .sources =>
    match (Text.splitAt 44 value).mapM fun part => (text? part).bind Source.ofText? with
    | some sources => .ok { options with sources := some (options.sources.getD [] ++ sources) }
    | none => .error .wrong

end Options

/-- What a request behind two hyphens is: its name, and the value behind its equals sign. -/
def splitLong (bytes : List UInt8) : Option String × Option (List UInt8) :=
  match bytes.span (· ≠ 61) with
  | (name, _ :: value) => (text? name, some value)
  | (name, []) => (text? name, none)

/-- Takes the flag for tabs. -/
def Options.setTabs (options : Options) : Except Halted Options :=
  if options.tabs then .error .wrong else .ok { options with tabs := true }

/-- The argument begins with a hyphen and is more than one. -/
def isDashed : List UInt8 → Bool
  | 45 :: _ :: _ => true
  | _ => false

/-- Reads arguments. `options` holds what was read before. -/
def Options.readFrom (options : Options) : List (List UInt8) → Except Halted Options
  | [] => .ok options
  | [45, 45] :: rest => if rest.isEmpty then .ok options else .error .wrong
  | (45 :: 45 :: long) :: rest =>
    match splitLong long with
    | (some "help", none) => .error .answered
    | (some "version", none) => .error .answered
    | (some "tsv", none) =>
      match options.setTabs with
      | .ok options => options.readFrom rest
      | .error halted => .error halted
    | (some name, value) =>
      match Name.ofText? name, value, rest with
      | some name, some value, rest =>
        match options.set name value with
        | .ok options => options.readFrom rest
        | .error halted => .error halted
      | some name, none, value :: rest =>
        if isDashed value then .error .wrong
        else
          match options.set name value with
          | .ok options => options.readFrom rest
          | .error halted => .error halted
      | _, _, _ => .error .wrong
    | (none, _) => .error .wrong
  | (45 :: c :: _) :: _ => .error (if c = 104 ∨ c = 86 then .answered else .wrong)
  | _ => .error .wrong

/-- Reads arguments. -/
def Options.read (arguments : List (List UInt8)) : Except Halted Options :=
  Options.readFrom {} arguments

end BidArchive.CommandLine
