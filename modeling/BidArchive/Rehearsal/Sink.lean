import BidArchive.Bid.Sink

/-!
# Rehearsed sinks

A sink that follows a plan: it says which writes fail, which crash and whether flushing fails, and
remembers the rows that were written. Writes are counted from zero, whatever becomes of them.
-/

namespace BidArchive.Rehearsal

/-- What a sink is going to do. -/
structure SinkPlan where
  failing : List Nat := []
  crashing : List Nat := []
  flushFails : Bool := false

/-- What a sink was asked for so far. -/
structure SinkRecord where
  writes : Nat := 0
  flushes : Nat := 0
  /-- The rows written, the last one first. -/
  rows : List Row := []

/-- The rows written, in order. -/
def SinkRecord.written (record : SinkRecord) : List Row := record.rows.reverse

/-- The sink that follows a plan. -/
def SinkPlan.sink (plan : SinkPlan) : Sink SinkRecord String where
  write row record :=
    let counted := { record with writes := record.writes + 1 }
    if plan.crashing.contains record.writes then (.crashed, counted)
    else if plan.failing.contains record.writes then (.failed "disk full", counted)
    else (.written, { counted with rows := row :: record.rows })
  flush record :=
    let counted := { record with flushes := record.flushes + 1 }
    if plan.flushFails then (.error "flush failed", counted) else (.ok (), counted)

end BidArchive.Rehearsal
