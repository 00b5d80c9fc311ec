import BidArchive.Proofs.Archive.Delimited
import BidArchive.Proofs.Number.Integers
import BidArchive.Proofs.Number.Values
import BidArchive.Bid.Basic

/-!
# Bids from rows

Nothing of a bid is lost in its row. Each cell is read by the rule for its field, an empty cell of
an optional field is an absent one, and the distance from the start of the slot is not read at all:
two other cells tell it (`distanceCell`). A row is the row of one bid at most, and whether it is one
can be found out by writing the bid that was read once more (`ofRecord?`).
-/

namespace BidArchive

open Chain (Slot)

/-! ## What is written is read back -/

theorem Source.ofText?_text (source : Source) : Source.ofText? source.text = some source := by
  cases source <;> decide +kernel

theorem Decimal.signed_repr (n : Int64) : Decimal.signed n.toInt.repr = .ok n :=
  Numeral.signed_eq_ok_iff.mpr (Numeral.spells_repr n.toInt)

theorem Decimal.unsigned_repr (n : UInt64) : Decimal.unsigned n.toNat.repr = .ok n :=
  Numeral.unsigned_eq_ok_iff.mpr (Numeral.spellsUnsigned_repr n.toNat)

theorem Wide.ofText_text (w : Wide) : Wide.ofText w.text = .ok w := by
  have hspells : Numeral.SpellsWide w.text w.toNat := by
    refine ⟨Nat.toDigits 10 w.toNat, Nat.toDigits_ne_nil, Or.inl ⟨?_, ?_⟩⟩
    · exact Nat.toList_repr
    · exact Numeral.spellsIn_toDigits w.toNat
  exact Numeral.ofText_eq_ok_iff.mpr hspells.spellsLoosely.1

namespace Bid

variable {bid : Bid} {cells : List String}

/-! ## Cells -/

/-- The number in a cell. -/
def wordOfCell? (cell : String) : Option Int64 := (Decimal.signed cell).toOption

/-- The number in a cell that may be empty. -/
def numberOfCell? (cell : String) : Option (Option Int64) :=
  if cell = "" then some none else (wordOfCell? cell).map some

/-- The truth value in a cell that may be empty. -/
def boolOfCell? (cell : String) : Option (Option Bool) :=
  if cell = "" then some none
  else if cell = "true" then some (some true)
  else if cell = "false" then some (some false)
  else none

theorem wordOfCell?_repr (n : Int64) : wordOfCell? n.toInt.repr = some n := by
  unfold wordOfCell?
  rw [Decimal.signed_repr]
  rfl

/-- Present and absent numbers are told apart. -/
theorem numberOfCell?_numberCell (n : Option Int64) : numberOfCell? (numberCell n) = some n := by
  cases n with
  | none => rfl
  | some n =>
      have hempty : wordOfCell? "" = none := by decide
      have hne : n.toInt.repr ≠ "" := by
        intro h
        have hread := wordOfCell?_repr n
        rw [h, hempty] at hread
        exact absurd hread (by simp)
      show numberOfCell? n.toInt.repr = some (some n)
      unfold numberOfCell?
      rw [if_neg hne, wordOfCell?_repr]
      rfl

/-- Present and absent truth values are told apart. -/
theorem boolOfCell?_boolCell (b : Option Bool) : boolOfCell? (boolCell b) = some b := by
  cases b with
  | none => rfl
  | some b => cases b <;> rfl

/-! ## Rows -/

/-- The bid of the cells of a row, the distance from the start of the slot left out. -/
def ofCells? : List String → Option Bid
  | [source, receivedAt, reported, slot, value, blockHash, parentHash, builderPubkey, blockNumber,
      blockFeeRecipient, relay, proposerPubkey, proposerFeeRecipient, optimistic] => do
    return {
      source := ← Source.ofText? source
      receivedAtMs := ← wordOfCell? receivedAt
      timestampMs := ← numberOfCell? reported
      slot := ⟨← wordOfCell? slot⟩
      value := ← (Wide.ofText value).toOption
      blockHash
      parentHash
      builderPubkey
      blockNumber := ← (Decimal.unsigned blockNumber).toOption
      blockFeeRecipient
      relay
      proposerPubkey
      proposerFeeRecipient
      optimisticSubmission := ← boolOfCell? optimistic }
  | _ => none

/-- **The cells of a row tell its bid**, without the distance from the start of the slot. -/
theorem ofCells?_record (bid : Bid) : ofCells? (bid.record.eraseIdx 4) = some bid := by
  have hslot : wordOfCell? bid.slot.text = some bid.slot.number := wordOfCell?_repr bid.slot.number
  simp only [record, List.eraseIdx_cons_succ, List.eraseIdx_cons_zero, ofCells?,
    Source.ofText?_text, wordOfCell?_repr, numberOfCell?_numberCell, hslot, Wide.ofText_text,
    Decimal.unsigned_repr, boolOfCell?_boolCell, Except.toOption, Option.bind_eq_bind,
    Option.bind_some]
  rfl

/-- The bid whose row this is. -/
def ofRecord? (cells : List String) : Option Bid :=
  (ofCells? (cells.eraseIdx 4)).filter fun bid => bid.record = cells

/-- **Reading a row undoes the writing of it**, and no row is read but those that are written. -/
theorem ofRecord?_eq_some_iff : ofRecord? cells = some bid ↔ bid.record = cells := by
  unfold ofRecord?
  rw [Option.filter_eq_some_iff, decide_eq_true_iff]
  constructor
  · exact And.right
  · rintro rfl
    exact ⟨ofCells?_record bid, rfl⟩

/-- The cell with the distance from the start of the slot, told by the cells with the time that the
source reports and the slot. -/
def distanceCell (reported slot : String) : String :=
  numberCell do
    let number ← wordOfCell? slot
    let start ← (⟨number⟩ : Slot).start?
    let reported ← (numberOfCell? reported).join
    Word.sub? reported start

theorem distanceCell_eq (bid : Bid) :
    distanceCell (numberCell bid.timestampMs) bid.slot.text = numberCell bid.sinceSlotStart? := by
  have hslot : wordOfCell? bid.slot.text = some bid.slot.number := wordOfCell?_repr bid.slot.number
  unfold distanceCell sinceSlotStart?
  rw [hslot, numberOfCell?_numberCell]
  rfl

/-- **A row determines its bid.** The rows that are read as a bid are those that it is written as.
Bids whose rows agree are one and the same, also when they need not agree in the distance from the
start of the slot: the time that the source reports and the slot tell that cell. -/
theorem bids_from_records (bid other : Bid) (cells : List String) :
    (ofRecord? cells = some bid ↔ bid.record = cells)
      ∧ (bid.record = other.record ↔ bid = other)
      ∧ (bid.record.eraseIdx 4 = other.record.eraseIdx 4 ↔ bid = other)
      ∧ ∃ reported slot, bid.record[2]? = some reported ∧ bid.record[3]? = some slot
        ∧ bid.record[4]? = some (distanceCell reported slot) := by
  have hone : bid.record.eraseIdx 4 = other.record.eraseIdx 4 → bid = other := by
    intro h
    have hread := ofCells?_record bid
    rw [h, ofCells?_record other] at hread
    exact (Option.some.inj hread).symm
  refine ⟨ofRecord?_eq_some_iff, ⟨fun h => hone (congrArg (·.eraseIdx 4) h), ?_⟩, ⟨hone, ?_⟩,
    numberCell bid.timestampMs, bid.slot.text, rfl, rfl, ?_⟩
  · rintro rfl
    rfl
  · rintro rfl
    rfl
  · rw [distanceCell_eq]
    rfl

/-- **Bids are read back from the text of their rows.** -/
theorem bids_from_text {d : Char} (hs : Delimited.Separates d) (bids : List Bid) :
    (Delimited.read d ((bids.map record).flatMap (Delimited.row d))).mapM ofRecord?
      = some bids := by
  have hne : ∀ cells ∈ bids.map record, cells ≠ [] := by
    intro cells hcells
    obtain ⟨bid, -, rfl⟩ := List.mem_map.mp hcells
    exact List.cons_ne_nil _ _
  rw [Delimited.read_rows hs hne]
  induction bids with
  | nil => rfl
  | cons bid bids ih =>
      have hrest := ih fun cells hcells => hne cells (List.mem_cons_of_mem _ hcells)
      rw [List.map_cons, List.mapM_cons, ofRecord?_eq_some_iff.mpr rfl, hrest]
      rfl

end Bid

end BidArchive
