import BidArchive.Bid.Ledger

/-!
# The recorder

The recorder takes batches of bids and writes what the ledger finds worth writing. It is fail-stop
within a batch: at the first write that does not succeed the batch ends there, with the ledger as
it stood when the row was decided on. A crash of the sink leaves the ledger locked for good, so
that nothing is decided on it any more; flushing needs no ledger and still works.
-/

namespace BidArchive

open Chain (Slot)

/-- Slots further behind the current one than this are forgotten. -/
def slotsKept : Int64 := 2

/-- Why the recorder could not do what it was asked for. -/
inductive RecorderFault (ε : Type)
  /-- An earlier crash left the ledger locked. -/
  | locked
  | sink (cause : ε)
deriving DecidableEq, Repr

/-- The wording of a fault, given that of the sink's causes. -/
def RecorderFault.message {ε : Type} (causeMessage : ε → String) : RecorderFault ε → String
  | .locked => "bid caches lock poisoned"
  | .sink cause => causeMessage cause

/-- How a calculation ended that did not succeed: with an error, or by a crash. -/
inductive Halt (φ : Type)
  | failed (fault : φ)
  | crashed
deriving DecidableEq, Repr

/-- The figures that are reported. -/
structure Stats where
  received : Nat
  unique : Nat
  topped : Nat
  slots : Nat
deriving DecidableEq, Repr

/-- A ledger with the sink that its rows go into. -/
structure Recorder (σ : Type) where
  ledger : Ledger := {}
  locked : Bool := false
  sink : σ

namespace Recorder

variable {σ ε : Type}

/-- Writes one row. -/
def write (sink : Sink σ ε) (row : Row) (r : Recorder σ) :
    Except (Halt (RecorderFault ε)) Unit × Recorder σ :=
  match sink.write row r.sink with
  | (.written, state) => (.ok (), { r with sink := state })
  | (.failed cause, state) => (.error (.failed (.sink cause)), { r with sink := state })
  | (.crashed, state) => (.error .crashed, { r with sink := state, locked := true })

/-- Takes a bid if it is new: remembers and writes it. -/
def takeNew (sink : Sink σ ε) (bid : Bid) (r : Recorder σ) :
    Except (Halt (RecorderFault ε)) Unit × Recorder σ :=
  if r.ledger.seen bid then (.ok (), r)
  else write sink ⟨.all, bid⟩ { r with ledger := r.ledger.enroll bid }

/-- Takes a bid as the top bid if it leads: remembers and writes it. -/
def takeTop (sink : Sink σ ε) (bid : Bid) (r : Recorder σ) :
    Except (Halt (RecorderFault ε)) Unit × Recorder σ :=
  if r.ledger.leads bid then write sink ⟨.top, bid⟩ { r with ledger := r.ledger.crown bid }
  else (.ok (), r)

/-- Takes one bid. -/
def take (sink : Sink σ ε) (bid : Bid) (r : Recorder σ) :
    Except (Halt (RecorderFault ε)) Unit × Recorder σ :=
  match takeNew sink bid { r with ledger := r.ledger.arrive bid } with
  | (.ok (), r) => takeTop sink bid r
  | (.error halt, r) => (.error halt, r)

/-- Takes bids in order up to the first write that does not succeed. -/
def takeAll (sink : Sink σ ε) (r : Recorder σ) :
    List Bid → Except (Halt (RecorderFault ε)) Unit × Recorder σ
  | [] => (.ok (), r)
  | bid :: rest =>
    match take sink bid r with
    | (.ok (), r) => takeAll sink r rest
    | (.error halt, r) => (.error halt, r)

/-- Takes a batch. -/
def process (sink : Sink σ ε) (batch : List Bid) (r : Recorder σ) :
    Except (Halt (RecorderFault ε)) Unit × Recorder σ :=
  if r.locked then (.error (.failed .locked), r) else takeAll sink r batch

/-- Forgets the slots that fell behind the current one. Answers how many there were. -/
def housekeep (current : Slot) (r : Recorder σ) :
    Except (Halt (RecorderFault ε)) Nat × Recorder σ :=
  match current.earlier? slotsKept with
  | none => (.error .crashed, r)
  | some oldest =>
    if r.locked then (.error (.failed .locked), r)
    else
      let ledger := r.ledger.forget oldest
      (.ok (r.ledger.keys.size - ledger.keys.size), { r with ledger := ledger })

/-- The figures of the ledger. -/
def stats (r : Recorder σ) : Except (RecorderFault ε) Stats :=
  if r.locked then .error .locked
  else .ok ⟨r.ledger.received, r.ledger.unique, r.ledger.topped, r.ledger.keys.size⟩

/-- The highest bid of a slot. -/
def topBid (slot : Slot) (r : Recorder σ) : Except (RecorderFault ε) (Option Bid) :=
  if r.locked then .error .locked else .ok (r.ledger.top? slot)

/-- The slots that something is remembered of, in ascending order. -/
def trackedSlots (r : Recorder σ) : Except (RecorderFault ε) (List Slot) :=
  if r.locked then .error .locked else .ok r.ledger.slots

/-- Flushes the sink. -/
def shutdown (sink : Sink σ ε) (r : Recorder σ) :
    Except (RecorderFault ε) Unit × Recorder σ :=
  match sink.flush r.sink with
  | (.ok (), state) => (.ok (), { r with sink := state })
  | (.error cause, state) => (.error (.sink cause), { r with sink := state })

end Recorder

end BidArchive
