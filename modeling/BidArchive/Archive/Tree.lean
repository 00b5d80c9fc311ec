/-!
# File trees

A directory with everything below it, as the list of its files and directories. Places are named
by their steps down from the directory; a step of two dots that is left in front leads above it,
where only directories are assumed.

A path is followed step by step: an empty step and a single dot stay, two dots go up, and any
other step needs a directory to stand in. A name takes at most 255 bytes and holds no null
character.

What lies below a directory may be in trouble (`Trouble`). Where a place is denied nothing is made
or opened, whatever the reason. A file that is open may refuse to tell its length, and it may refuse
a text that is added to it, in whole or from some character on: a disk that is full takes what there
is room for.
-/

namespace BidArchive

/-- The steps that lead to a file or directory. -/
abbrev Place := List String

/-- What stands at a place. -/
inductive Entry
  | file (content : String)
  | directory
deriving DecidableEq, Repr

namespace Tree

/-- Of a text that is added to a file only the first characters come through. A text that is no
longer than that comes through whole. -/
structure Cut where
  cause : String
  through : Nat
  /-- Where the piece begins that was being handed over, and how long it is, if it is not the whole
  text. -/
  piece : Option (Nat × Nat) := none
deriving DecidableEq, Repr

/-- What was being handed over. -/
def Cut.handed (cut : Cut) (text : String) : String :=
  match cut.piece with
  | none => text
  | some (start, length) => String.ofList ((text.toList.drop start).take length)

/-- What is the matter below a directory. -/
structure Trouble where
  /-- Where nothing can be made or opened. -/
  denied : List Place := []
  /-- The files that do not tell their length, with the cause. -/
  unmeasured : List (Place × String) := []
  /-- How the next texts fare that are added to files, each with its file. Those after them come
  through whole. -/
  appends : List (Place × Option Cut) := []
deriving DecidableEq, Repr

/-- How the next text fares that is added to a file, if it does not come through whole. -/
def Trouble.next? (trouble : Trouble) (place : Place) : Option Cut :=
  (trouble.appends.find? (·.1 = place)).bind (·.2)

/-- What is left of the trouble behind a text that is added to a file. -/
def Trouble.passed (trouble : Trouble) (place : Place) : Trouble :=
  { trouble with appends := trouble.appends.eraseP (·.1 = place) }

end Tree

/-- A directory by what is below it, in the order of creation. -/
structure Tree where
  entries : List (Place × Entry) := []
  trouble : Tree.Trouble := {}
deriving DecidableEq, Repr

namespace Tree

/-- Why a place cannot be reached or made. -/
inductive Fault
  /-- A directory on the way is missing. -/
  | missing
  /-- Something stands there already. -/
  | occupied
  /-- The way leads through a file. -/
  | notDirectory
  /-- A file was asked for and a directory stands there. -/
  | isDirectory
  /-- A name is too long or holds a null character. -/
  | badName
  /-- Nothing can be made or opened there. -/
  | denied
deriving DecidableEq, Repr

/-- The step leads up. -/
def isUp (step : String) : Bool := step == ".."

/-- The step stays where it is. -/
def isStay (step : String) : Bool := step == "" || step == "."

/-- The name can be given to a file. -/
def nameFits (name : String) : Bool :=
  decide (name.utf8ByteSize ≤ 255) && !name.toList.contains (Char.ofNat 0)

/-- What stands at a place. The directory itself and what is above it are directories. -/
def at? (tree : Tree) (place : Place) : Option Entry :=
  if place.all isUp then some .directory
  else (tree.entries.find? (·.1 = place)).map (·.2)

/-- The place above. -/
def above (place : Place) : Place :=
  match place.getLast? with
  | none => [".."]
  | some step => if isUp step then place ++ [".."] else place.dropLast

/-- Follows steps from a directory to the directory that they lead to. -/
def walk (tree : Tree) (place : Place) : List String → Except Fault Place
  | [] => .ok place
  | step :: rest =>
    if isStay step then walk tree place rest
    else if isUp step then walk tree (above place) rest
    else if !nameFits step then .error .badName
    else
      match tree.at? (place ++ [step]) with
      | some .directory => walk tree (place ++ [step]) rest
      | some (.file _) => .error .notDirectory
      | none => .error .missing

/-- Puts an entry at a place, in place of what stands there. -/
def put (tree : Tree) (place : Place) (entry : Entry) : Tree :=
  if tree.entries.any (·.1 = place) then
    { tree with entries := tree.entries.map fun e => if e.1 = place then (place, entry) else e }
  else { tree with entries := tree.entries ++ [(place, entry)] }

/-- Makes one directory. -/
def makeDirectory (tree : Tree) (path : List String) : Except Fault Tree := do
  match path.getLast? with
  | none => .error .occupied
  | some name =>
    let parent ← tree.walk [] path.dropLast
    if isStay name || isUp name then .error .occupied
    else if !nameFits name then .error .badName
    else if tree.trouble.denied.contains (parent ++ [name]) then .error .denied
    else
      match tree.at? (parent ++ [name]) with
      | some _ => .error .occupied
      | none => .ok (tree.put (parent ++ [name]) .directory)

/-- The path leads to a directory. -/
def isDirectory (tree : Tree) (path : List String) : Bool :=
  match tree.walk [] path with
  | .ok _ => true
  | .error _ => false

/-- Makes a directory and, where they are missing, those above it. What was made on the way stays
when a later step fails; `steps` bounds how far up it goes. -/
def makeDirectories (tree : Tree) (path : List String) : Nat → Except Fault Unit × Tree
  | 0 => (.error .missing, tree)
  | steps + 1 =>
    match tree.makeDirectory path with
    | .ok tree => (.ok (), tree)
    | .error .missing =>
      match makeDirectories tree path.dropLast steps with
      | (.error fault, tree) => (.error fault, tree)
      | (.ok (), tree) =>
        match tree.makeDirectory path with
        | .ok tree => (.ok (), tree)
        | .error fault => if tree.isDirectory path then (.ok (), tree) else (.error fault, tree)
    | .error fault => if tree.isDirectory path then (.ok (), tree) else (.error fault, tree)

/-- Opens a file for appending, making it if it is missing. Answers its place. -/
def openFile (tree : Tree) (path : List String) : Except Fault (Place × Tree) := do
  match path.getLast? with
  | none => .error .isDirectory
  | some name =>
    let parent ← tree.walk [] path.dropLast
    if isStay name || isUp name then .error .isDirectory
    else if !nameFits name then .error .badName
    else if tree.trouble.denied.contains (parent ++ [name]) then .error .denied
    else
      match tree.at? (parent ++ [name]) with
      | some (.file _) => .ok (parent ++ [name], tree)
      | some .directory => .error .isDirectory
      | none => .ok (parent ++ [name], tree.put (parent ++ [name]) (.file ""))

/-- The content of the file at a place. -/
def content? (tree : Tree) (place : Place) : Option String :=
  match tree.at? place with
  | some (.file content) => some content
  | _ => none

/-- The file at a place holds nothing, if that can be told. -/
def isEmpty? (tree : Tree) (place : Place) : Except String Bool :=
  match tree.trouble.unmeasured.find? (·.1 = place) with
  | some (_, cause) => .error cause
  | none => .ok (tree.content? place = some "")

/-- The file at a place with text at its end. -/
def extend (tree : Tree) (place : Place) (text : String) : Tree :=
  match tree.content? place with
  | some content => tree.put place (.file (content ++ text))
  | none => tree

/-- Adds text to the end of a file, as far as it comes through. No text at all is no matter of the
file. -/
def append (tree : Tree) (place : Place) (text : String) : Except Cut Unit × Tree :=
  if text = "" then (.ok (), tree)
  else
    let later := { tree with trouble := tree.trouble.passed place }
    match tree.trouble.next? place with
    | some cut =>
      if text.toList.length ≤ cut.through then (.ok (), later.extend place text)
      else
        (.error cut, later.extend place (String.ofList (text.toList.take cut.through)))
    | none => (.ok (), later.extend place text)

end Tree

end BidArchive
