import BidArchive.Bid.Sink
import BidArchive.Number.Word
import BidArchive.Time.Instant

/-!
# Buckets

Rows go into files by the time of receipt: time is cut into buckets of equal length, counted from
the start of 1970, and every bucket has one file for each kind of row. A file is named after the
minute in which its bucket starts, the name of the collector if it has one, and the kind, and lies
in a directory named after the day. From outside, its path is that of the directory of the archive,
that of the day and its name, joined by slashes.
-/

namespace BidArchive

/-- How an archive is laid out. -/
structure Layout where
  /-- The directory of the archive. -/
  directory : String := "csv"
  bucketSeconds : Int64 := 3600
  /-- The name of the collector, which keeps its files apart from those of others. -/
  uid : Option String := none
  /-- Tabs between cells in place of commas. -/
  tabs : Bool := false
deriving DecidableEq, Repr

namespace Layout

/-- The character between cells. -/
def delimiter (layout : Layout) : Char := if layout.tabs then '\t' else ','

/-- The ending of file names. -/
def extension (layout : Layout) : String := if layout.tabs then "tsv" else "csv"

/-- The start of the bucket that a time of receipt falls in, in seconds since 1970. -/
def bucketStart (layout : Layout) (receivedAtMs : Int64) : Int64 :=
  let seconds := receivedAtMs.toInt / 1000
  let length := layout.bucketSeconds.toInt
  Int64.ofInt (seconds / length * length)

/-- The start of a bucket worked out in words, where every step has to fit. -/
def bucketStart? (layout : Layout) (receivedAtMs : Int64) : Option Int64 := do
  let seconds ← Word.signed? (receivedAtMs.toInt / 1000)
  let count ← Word.signed? (seconds.toInt / layout.bucketSeconds.toInt)
  Word.mul? count layout.bucketSeconds

/-- The name of the day's directory. -/
def dayName (start : Time.Instant) : String := start.date.text

/-- What stands in a file name for the collector. -/
def uidPart (layout : Layout) : String :=
  match layout.uid with
  | some uid => "_" ++ uid
  | none => ""

/-- The name of the file of a bucket. -/
def fileName (layout : Layout) (start : Time.Instant) (kind : RowKind) : String :=
  start.date.text ++ "_" ++ Time.padded 2 start.hour ++ "-" ++ Time.padded 2 start.minute
    ++ layout.uidPart ++ "_" ++ kind.text ++ "." ++ layout.extension

/-- The path of the file of a bucket within the directory of the archive, when the calendar covers
the start of the bucket. -/
def filePath? (layout : Layout) (bucketStart : Int64) (kind : RowKind) : Option String := do
  let start ← Time.Instant.ofSeconds? bucketStart.toInt
  return dayName start ++ "/" ++ layout.fileName start kind

/-- The path with a slash behind it, unless it is empty or has one. -/
def opened (path : String) : String :=
  if path = "" ∨ path.toList.getLast? = some '/' then path else path ++ "/"

/-- The path that a step leads to from another one. A step that begins with a slash starts anew. -/
def join (path step : String) : String :=
  if step.toList.head? = some '/' then step else opened path ++ step

/-- The path of the file of a bucket, when the calendar covers the start of the bucket. -/
def fullPath? (layout : Layout) (bucketStart : Int64) (kind : RowKind) : Option String := do
  let start ← Time.Instant.ofSeconds? bucketStart.toInt
  return join (join layout.directory (dayName start)) (layout.fileName start kind)

end Layout

end BidArchive
