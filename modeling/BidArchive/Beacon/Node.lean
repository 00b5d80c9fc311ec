import BidArchive.Beacon.Message
import BidArchive.Chain.Epoch

/-!
# Beacon nodes

A beacon node answers two questions: who proposes the slots of an epoch, and what the hash of a
block's execution payload is. It is modelled as a state with two operations, so that an answer may
depend on everything asked before and may be a failure.
-/

namespace BidArchive.Beacon

/-- A beacon node with states `σ` and causes of failure `ε`. -/
structure Node (σ ε : Type) where
  /-- The duties of an epoch. -/
  duties : Chain.Epoch → σ → Except ε (List Duty) × σ
  /-- The hash of the execution payload of the block with a root, if it has a payload. -/
  blockHash : String → σ → Except ε (Option String) × σ

/-- A question to a beacon node. -/
inductive Question
  | duties (epoch : Chain.Epoch)
  | blockHash (root : String)
deriving DecidableEq, Repr

end BidArchive.Beacon
