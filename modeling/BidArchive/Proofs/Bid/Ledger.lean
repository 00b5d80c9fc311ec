import BidArchive.Bid.Ledger

/-!
# Laws of the ledger

What the operations do to keys and highest bids is said here slot by slot: a bid touches
what is remembered of its own slot and no other, and forgetting drops slots as a whole.
The two stay in step: no slot has a highest bid that is not remembered (`InStep`).

`Ledger.taken` is what taking a bid comes to when nothing gets in the way, and
`Ledger.rowsFor` what is written meanwhile. Both depend only on what the ledger held
before: that the slot is entered first changes neither answer.
-/

namespace BidArchive

open Chain (Slot SlotMap)

namespace Ledger

variable {ledger : Ledger} {bid : Bid} {slot oldest : Slot} {k : String}

/-! ## The operations, slot by slot -/

theorem keysOf_arrive : (ledger.arrive bid).keysOf slot = ledger.keysOf slot := by
  unfold keysOf arrive
  rw [SlotMap.get?_change]
  split
  · rename_i h
    rw [h]
    rfl
  · rfl

theorem keysOf_enroll : (ledger.enroll bid).keysOf slot
    = if slot = bid.slot then bid.key :: ledger.keysOf slot else ledger.keysOf slot := by
  unfold keysOf enroll
  rw [SlotMap.get?_change]
  split
  · rename_i h
    rw [h]
    rfl
  · rfl

theorem top?_crown : (ledger.crown bid).top? slot
    = if slot = bid.slot then some bid else ledger.top? slot := SlotMap.get?_change

theorem keysOf_forget : (ledger.forget oldest).keysOf slot
    = if slot < oldest then [] else ledger.keysOf slot := by
  unfold keysOf forget
  rw [SlotMap.get?_keepFrom]
  split <;> rfl

theorem top?_forget : (ledger.forget oldest).top? slot
    = if slot < oldest then none else ledger.top? slot := SlotMap.get?_keepFrom

/-! ## The slots -/

theorem mem_slots : slot ∈ ledger.slots ↔ (ledger.keys.get? slot).isSome := SlotMap.mem_slots

theorem length_slots (ledger : Ledger) : ledger.slots.length = ledger.keys.size :=
  ledger.keys.length_slots

theorem slots_ascending (ledger : Ledger) : ledger.slots.Pairwise (· < ·) :=
  ledger.keys.slots_ascending

theorem mem_slots_change {f : Option (List String) → List String} :
    slot ∈ (ledger.keys.change bid.slot f).slots ↔ slot = bid.slot ∨ slot ∈ ledger.slots := by
  rw [SlotMap.mem_slots, SlotMap.get?_change, mem_slots]
  split
  · rename_i h
    simp [h]
  · rename_i h
    simp [h]

theorem mem_slots_arrive :
    slot ∈ (ledger.arrive bid).slots ↔ slot = bid.slot ∨ slot ∈ ledger.slots :=
  mem_slots_change

theorem mem_slots_enroll :
    slot ∈ (ledger.enroll bid).slots ↔ slot = bid.slot ∨ slot ∈ ledger.slots :=
  mem_slots_change

theorem slots_forget (ledger : Ledger) (oldest : Slot) :
    (ledger.forget oldest).slots = ledger.slots.filter fun s => decide (oldest ≤ s) :=
  ledger.keys.slots_keepFrom oldest

theorem mem_slots_forget :
    slot ∈ (ledger.forget oldest).slots ↔ ¬ slot < oldest ∧ slot ∈ ledger.slots := by
  rw [slots_forget, List.mem_filter, decide_eq_true_iff, and_comm]
  exact and_congr_left' Int.not_lt.symm

/-! ## Taking a bid -/

/-- The ledger once a bid is entered and, if it is new, enrolled. -/
def noted (bid : Bid) (ledger : Ledger) : Ledger :=
  let arrived := ledger.arrive bid
  if arrived.seen bid then arrived else arrived.enroll bid

/-- The ledger once a bid is taken. -/
def taken (bid : Bid) (ledger : Ledger) : Ledger :=
  let noted := ledger.noted bid
  if noted.leads bid then noted.crown bid else noted

/-- The rows that a bid brings about. -/
def rowsFor (bid : Bid) (ledger : Ledger) : List Row :=
  (if ledger.seen bid then [] else [⟨.all, bid⟩])
    ++ if ledger.leads bid then [⟨.top, bid⟩] else []

/-- The ledger at the moment that a row of a bid goes to the sink: what the row says is entered
already. -/
def atWrite (kind : RowKind) (bid : Bid) (ledger : Ledger) : Ledger :=
  match kind with
  | .all => (ledger.arrive bid).enroll bid
  | .top => (ledger.noted bid).crown bid

/-- The ledger once bids are taken one after the other. -/
def takenAll (ledger : Ledger) (bids : List Bid) : Ledger :=
  bids.foldl (fun ledger bid => ledger.taken bid) ledger

/-- The rows that bids bring about, one after the other. -/
def rowsForAll (ledger : Ledger) : List Bid → List Row
  | [] => []
  | bid :: rest => ledger.rowsFor bid ++ (ledger.taken bid).rowsForAll rest

theorem rowsForAll_append (p q : List Bid) :
    ledger.rowsForAll (p ++ q) = ledger.rowsForAll p ++ (ledger.takenAll p).rowsForAll q := by
  induction p generalizing ledger with
  | nil => rfl
  | cons bid p ih =>
      rw [List.cons_append, rowsForAll, rowsForAll, ih, List.append_assoc]
      rfl

/-- Entering its slot makes no bid a known one. -/
theorem seen_arrive : (ledger.arrive bid).seen bid = ledger.seen bid := by
  unfold seen
  rw [keysOf_arrive]

/-- **The keys of its slot** once a bid is entered and enrolled. -/
theorem mem_keysOf_noted : k ∈ (ledger.noted bid).keysOf slot
    ↔ slot = bid.slot ∧ k = bid.key ∨ k ∈ ledger.keysOf slot := by
  unfold noted
  dsimp only
  split
  · rename_i hseen
    rw [keysOf_arrive]
    refine ⟨.inr, ?_⟩
    rintro (⟨rfl, rfl⟩ | hk)
    · rw [seen_arrive] at hseen
      exact List.contains_iff_mem.mp hseen
    · exact hk
  · rw [keysOf_enroll, keysOf_arrive]
    split
    · rename_i hs
      simp [hs]
    · rename_i hs
      simp [hs]

theorem top?_noted : (ledger.noted bid).top? slot = ledger.top? slot := by
  unfold noted
  dsimp only
  split <;> rfl

theorem mem_slots_noted :
    slot ∈ (ledger.noted bid).slots ↔ slot = bid.slot ∨ slot ∈ ledger.slots := by
  unfold noted
  dsimp only
  split
  · exact mem_slots_arrive
  · rw [mem_slots_enroll, mem_slots_arrive, ← or_assoc, or_self]

/-- Whether a bid leads is decided by what was remembered before it came. -/
theorem leads_noted : (ledger.noted bid).leads bid = ledger.leads bid := by
  unfold leads
  rw [top?_noted]

theorem mem_keysOf_taken : k ∈ (ledger.taken bid).keysOf slot
    ↔ slot = bid.slot ∧ k = bid.key ∨ k ∈ ledger.keysOf slot := by
  have hkeys : (ledger.taken bid).keysOf slot = (ledger.noted bid).keysOf slot := by
    unfold taken
    dsimp only
    split <;> rfl
  rw [hkeys, mem_keysOf_noted]

/-- **The highest bid of its slot** once a bid is taken. -/
theorem top?_taken : (ledger.taken bid).top? slot
    = if slot = bid.slot ∧ ledger.leads bid then some bid else ledger.top? slot := by
  unfold taken
  dsimp only
  rw [leads_noted]
  by_cases hl : ledger.leads bid = true
  · rw [if_pos hl, top?_crown, top?_noted]
    simp [hl]
  · rw [if_neg hl, top?_noted, if_neg fun h => hl h.2]

theorem mem_slots_taken :
    slot ∈ (ledger.taken bid).slots ↔ slot = bid.slot ∨ slot ∈ ledger.slots := by
  have hslots : (ledger.taken bid).slots = (ledger.noted bid).slots := by
    unfold taken
    dsimp only
    split <;> rfl
  rw [hslots, mem_slots_noted]

theorem received_taken : (ledger.taken bid).received = ledger.received + 1 := by
  unfold taken noted
  dsimp only
  split <;> split <;> rfl

theorem unique_taken :
    (ledger.taken bid).unique = ledger.unique + if ledger.seen bid then 0 else 1 := by
  rw [← seen_arrive]
  unfold taken noted
  dsimp only
  split <;> split <;> rfl

theorem topped_taken :
    (ledger.taken bid).topped = ledger.topped + if ledger.leads bid then 1 else 0 := by
  rw [← leads_noted]
  unfold taken
  dsimp only
  have hn : (ledger.noted bid).topped = ledger.topped := by
    unfold noted
    dsimp only
    split <;> rfl
  split
  · rw [← hn]; rfl
  · exact hn

/-! ## Keys and highest bids in step -/

/-- Every slot with a highest bid is remembered. -/
def InStep (ledger : Ledger) : Prop := ∀ slot, (ledger.top? slot).isSome → slot ∈ ledger.slots

theorem inStep_empty : InStep {} := fun _ h => absurd h (by simp [top?])

theorem InStep.noted (h : InStep ledger) (bid : Bid) : InStep (ledger.noted bid) := by
  intro slot ht
  rw [top?_noted] at ht
  exact mem_slots_noted.mpr (.inr (h slot ht))

/-- The slot of a bid is remembered before the bid can become the highest. -/
theorem InStep.crown_noted (h : InStep ledger) (bid : Bid) :
    InStep ((ledger.noted bid).crown bid) := by
  intro slot ht
  show slot ∈ (ledger.noted bid).slots
  rw [mem_slots_noted]
  rw [top?_crown, top?_noted] at ht
  split at ht
  · rename_i hs
    exact .inl hs
  · exact .inr (h slot ht)

theorem InStep.taken (h : InStep ledger) (bid : Bid) : InStep (ledger.taken bid) := by
  unfold Ledger.taken
  dsimp only
  split
  · exact h.crown_noted bid
  · exact h.noted bid

theorem InStep.takenAll (h : InStep ledger) (bids : List Bid) : InStep (ledger.takenAll bids) := by
  induction bids generalizing ledger with
  | nil => exact h
  | cons bid rest ih => exact ih (h.taken bid)

theorem InStep.atWrite (h : InStep ledger) (kind : RowKind) (bid : Bid) :
    InStep (ledger.atWrite kind bid) := by
  cases kind with
  | all =>
      intro slot ht
      exact mem_slots_enroll.mpr (.inr (mem_slots_arrive.mpr (.inr (h slot ht))))
  | top => exact h.crown_noted bid

/-- **Both are dropped together.** -/
theorem InStep.forget (h : InStep ledger) (oldest : Slot) : InStep (ledger.forget oldest) := by
  intro slot ht
  rw [top?_forget] at ht
  rw [mem_slots_forget]
  split at ht
  · exact absurd ht (by simp)
  · rename_i hle
    exact ⟨hle, h slot ht⟩

end Ledger

end BidArchive
