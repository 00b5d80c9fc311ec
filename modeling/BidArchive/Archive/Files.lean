import BidArchive.Archive.Bucket
import BidArchive.Archive.Delimited
import BidArchive.Archive.Tree
import BidArchive.Text.Blank

/-!
# Archive files

An archive writes rows into the files of their buckets. A file is opened when its first row comes,
and has a writer from then on; its directories are made as needed. An empty file begins with the
names of the columns, one that has content is carried on. A write that fails before its file is
open leaves no trace but directories, and the next write to the same bucket tries anew.

A writer hands over a row at once, or in pieces if the row is longer than what a writer can hold. If
the file does not take all of it the write fails, and the writer goes on holding what it was handing
over, whatever part of it is on file. It hands it over again in front of the next row, at the next
flush, or when it is let go. A file that does not take the names of the columns gets no writer.
-/

namespace BidArchive

/-- Why an archive could not be set up or written to. -/
inductive ArchiveFault
  | bucketNotPositive (seconds : Int64)
  | bucketOutOfRange (start : Int64)
  | directoryNotMade (path : String)
  | fileNotOpened (path : String)
  /-- A file that is open could not be measured or added to. -/
  | fileFailed (cause : String)
deriving DecidableEq, Repr

/-- The wording of a fault. Paths are given within the directory of the archive. -/
def ArchiveFault.message : ArchiveFault → String
  | .bucketNotPositive seconds =>
    "bucket seconds must be positive, got " ++ seconds.toInt.repr
  | .bucketOutOfRange start => "bucket start out of range: " ++ start.toInt.repr
  | .directoryNotMade path => "failed to create bid output dir " ++ path
  | .fileNotOpened path => "failed to open bid output file " ++ path
  | .fileFailed cause => cause

/-- What adds to a file that is open. -/
structure Writer where
  place : Place
  /-- What was written and has not come through. -/
  held : String := ""
deriving DecidableEq, Repr

namespace Writer

/-- Hands over what is held, and holds on to what was being handed over unless all of it comes
through. -/
def flush (writer : Writer) (tree : Tree) : Except ArchiveFault Unit × Writer × Tree :=
  match tree.append writer.place writer.held with
  | (.ok (), tree) => (.ok (), { writer with held := "" }, tree)
  | (.error cut, tree) =>
    (.error (.fileFailed cut.cause), { writer with held := cut.handed writer.held }, tree)

/-- Writes a text, behind what is held. -/
def write (writer : Writer) (text : String) (tree : Tree) :
    Except ArchiveFault Unit × Writer × Tree :=
  { writer with held := writer.held ++ text }.flush tree

/-- Lets the writer go, which hands over what it holds and tells nobody how that went. -/
def close (writer : Writer) (tree : Tree) : Tree := (writer.flush tree).2.2

end Writer

/-- A bucket by its start and the kind of rows. -/
abbrev Bucket := Int64 × RowKind

/-- An archive at work: its layout, the files below its directory and the writers of those that are
open, by their bucket. -/
structure Archive where
  layout : Layout
  tree : Tree
  opened : List (Bucket × Writer) := []

namespace Archive

/-- An archive over the files of a directory. -/
def open? (layout : Layout) (tree : Tree) : Except ArchiveFault Archive :=
  if 0 < layout.bucketSeconds.toInt then .ok { layout := layout, tree := tree }
  else .error (.bucketNotPositive layout.bucketSeconds)

/-- The steps of a path. -/
def steps (path : String) : List String := (Text.splitAt '/' path.toList).map String.ofList

/-- The steps of the directory that a path lies in. -/
def directorySteps (path : String) : List String :=
  (steps path).dropLast.filter fun step => !Tree.isStay step

/-- The row as it is written. -/
def rowText (layout : Layout) (record : List String) : String :=
  String.ofList (Delimited.row layout.delimiter record)

/-- The writer of a file that was just opened. An empty file begins with the names of the columns,
and if it does not take them the writer is let go. -/
def begin (layout : Layout) (place : Place) (tree : Tree) : Except ArchiveFault Writer × Tree :=
  match tree.isEmpty? place with
  | .error cause => (.error (.fileFailed cause), tree)
  | .ok false => (.ok { place := place }, tree)
  | .ok true =>
    match Writer.write { place := place } (rowText layout columns) tree with
    | (.ok (), writer, tree) => (.ok writer, tree)
    | (.error fault, writer, tree) => (.error fault, writer.close tree)

/-- Opens the file of a bucket. -/
def openFile (archive : Archive) (start : Int64) (kind : RowKind) :
    Except ArchiveFault Writer × Archive :=
  match archive.layout.filePath? start kind with
  | none => (.error (.bucketOutOfRange start), archive)
  | some path =>
    let directory := directorySteps path
    match archive.tree.makeDirectories directory (directory.length + 1) with
    | (.error _, tree) =>
      (.error (.directoryNotMade ("/".intercalate directory)), { archive with tree := tree })
    | (.ok (), tree) =>
      match tree.openFile (directory ++ [((steps path).getLast?).getD ""]) with
      | .error _ => (.error (.fileNotOpened path), { archive with tree := tree })
      | .ok (place, tree) =>
        match begin archive.layout place tree with
        | (.error fault, tree) => (.error fault, { archive with tree := tree })
        | (.ok writer, tree) =>
          (.ok writer,
            { archive with tree := tree, opened := ((start, kind), writer) :: archive.opened })

/-- The writer of a bucket, whose file is opened first if need be. -/
def file (archive : Archive) (start : Int64) (kind : RowKind) :
    Except ArchiveFault Writer × Archive :=
  match archive.opened.find? (·.1 = (start, kind)) with
  | some (_, writer) => (.ok writer, archive)
  | none => archive.openFile start kind

/-- The archive after its writer of a bucket was at work. -/
def worked (archive : Archive) (bucket : Bucket) (writer : Writer) (tree : Tree) : Archive :=
  { archive with
    tree := tree
    opened := (bucket, writer) :: archive.opened.filter (·.1 ≠ bucket) }

/-- Writes a row. -/
def write (row : Row) (archive : Archive) : Verdict ArchiveFault × Archive :=
  let start := archive.layout.bucketStart row.bid.receivedAtMs
  match archive.file start row.kind with
  | (.error fault, archive) => (.failed fault, archive)
  | (.ok writer, archive) =>
    match writer.write (rowText archive.layout row.bid.record) archive.tree with
    | (.ok (), writer, tree) => (.written, archive.worked (start, row.kind) writer tree)
    | (.error fault, writer, tree) => (.failed fault, archive.worked (start, row.kind) writer tree)

/-- Flushes writers one after the other, up to the first that does not succeed. -/
def flushAll (tree : Tree) :
    List (Bucket × Writer) → Except ArchiveFault Unit × List (Bucket × Writer) × Tree
  | [] => (.ok (), [], tree)
  | (bucket, writer) :: rest =>
    match writer.flush tree with
    | (.error fault, writer, tree) => (.error fault, (bucket, writer) :: rest, tree)
    | (.ok (), writer, tree) =>
      let (result, rest, tree) := flushAll tree rest
      (result, (bucket, writer) :: rest, tree)

/-- Flushes what is open. -/
def flush (archive : Archive) : Except ArchiveFault Unit × Archive :=
  let (result, opened, tree) := flushAll archive.tree archive.opened
  (result, { archive with tree := tree, opened := opened })

/-- Leaves the archive, which lets its writers go. -/
def close (archive : Archive) : Tree :=
  archive.opened.foldl (fun tree entry => entry.2.close tree) archive.tree

/-- The archive as a sink. -/
def sink : Sink Archive ArchiveFault where
  write := write
  flush := flush

end Archive

end BidArchive
