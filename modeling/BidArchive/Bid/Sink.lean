import BidArchive.Bid.Basic

/-!
# Sinks

Rows of output go into a sink: a state with an operation to write a row and one to flush. Either
may fail with a cause, and a write may also crash, which takes down the calculation that asked for
it.
-/

namespace BidArchive

/-- The two outputs that are kept side by side. -/
inductive RowKind
  /-- Every distinct bid. -/
  | all
  /-- Each new highest bid of a slot. -/
  | top
deriving DecidableEq, Repr

/-- The name of the output. -/
def RowKind.text : RowKind → String
  | .all => "all"
  | .top => "top"

/-- A row of output. -/
structure Row where
  kind : RowKind
  bid : Bid
deriving DecidableEq, Repr

/-- How a write ended. -/
inductive Verdict (ε : Type)
  | written
  | failed (cause : ε)
  | crashed

/-- A place for rows, with states `σ` and causes of failure `ε`. -/
structure Sink (σ ε : Type) where
  write : Row → σ → Verdict ε × σ
  flush : σ → Except ε Unit × σ

/-- The sink that remembers what was written, in order, and never fails. -/
def Sink.recording (ε : Type) : Sink (List Row) ε where
  write row rows := (.written, rows ++ [row])
  flush rows := (.ok (), rows)

end BidArchive
