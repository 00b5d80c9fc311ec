import BidArchive.Proofs.Bid.History
import BidArchive.Proofs.Bid.Ledger

/-!
# The ledger remembers the past

A ledger keeps a few keys and one bid for a slot, and knows from them whether a bid
is new and whether it leads, which are questions about everything that happened. The
invariant is that slot by slot they are a digest of the recent past: the keys are those
of the bids, and the top bid is the first of the highest ones. A slot is remembered if
and only if there were bids, and then it has a top bid.

The invariant is kept by taking a bid and by forgetting slots, whatever the sink does
meanwhile, and it makes the ledger decide as the past would.
-/

namespace BidArchive

open Chain (Slot)
open History

/-- The first of the highest bids: all before it are below it, none behind it is above it. -/
def Highest (top : Bid) (bids : List Bid) : Prop :=
  ∃ before after, bids = before ++ top :: after
    ∧ (∀ b ∈ before, b.value < top.value) ∧ ∀ b ∈ after, b.value ≤ top.value

variable {top bid : Bid} {bids : List Bid}

theorem Highest.mem (h : Highest top bids) : top ∈ bids := by
  obtain ⟨before, after, rfl, _, _⟩ := h
  exact List.mem_append_right _ List.mem_cons_self

theorem Highest.le (h : Highest top bids) {b : Bid} (hb : b ∈ bids) : b.value ≤ top.value := by
  obtain ⟨before, after, rfl, hlt, hle⟩ := h
  rcases List.mem_append.mp hb with hb | hb
  · exact BitVec.le_of_lt (hlt b hb)
  · rcases List.mem_cons.mp hb with hb | hb
    · rw [hb]; exact BitVec.le_refl _
    · exact hle b hb

/-- The highest bid does not stand before one that is above all before it. -/
theorem Highest.not_mem_before (h : Highest top bids) {b : Bid} (hb : b ∈ bids)
    {before : List Bid} (hlt : ∀ x ∈ before, x.value < b.value) : top ∉ before := by
  intro hmem
  have h₁ := hlt top hmem
  have h₂ := h.le hb
  rw [BitVec.lt_def] at h₁
  rw [BitVec.le_def] at h₂
  omega

/-- There is one first highest bid. -/
theorem Highest.unique {a b : Bid} (ha : Highest a bids) (hb : Highest b bids) : a = b := by
  obtain ⟨before, after, hl, hlt, _⟩ := id ha
  obtain ⟨before', after', hl', hlt', _⟩ := id hb
  rcases List.append_eq_append_iff.mp (hl.symm.trans hl') with ⟨mid, hpre, hmid⟩ | ⟨mid, hpre, hmid⟩
  · cases mid with
    | nil => exact (List.cons.inj hmid).1
    | cons c mid =>
        refine absurd ?_ (ha.not_mem_before hb.mem hlt')
        rw [hpre, (List.cons.inj hmid).1]
        exact List.mem_append_right _ List.mem_cons_self
  · cases mid with
    | nil => exact (List.cons.inj hmid).1.symm
    | cons c mid =>
        refine absurd ?_ (hb.not_mem_before ha.mem hlt)
        rw [hpre, (List.cons.inj hmid).1]
        exact List.mem_append_right _ List.mem_cons_self

/-- A bid is above all others if and only if it is above the highest. -/
theorem Highest.forall_lt_iff (h : Highest top bids) :
    (∀ b ∈ bids, b.value < bid.value) ↔ top.value < bid.value := by
  constructor
  · exact fun hlt => hlt top h.mem
  · intro hlt b hb
    have hle := h.le hb
    rw [BitVec.le_def] at hle
    rw [BitVec.lt_def] at *
    omega

/-- A bid above all others comes to be the first highest one. -/
theorem Highest.of_forall_lt (h : ∀ b ∈ bids, b.value < bid.value) :
    Highest bid (bids ++ [bid]) :=
  ⟨bids, [], rfl, h, fun _ hb => absurd hb List.not_mem_nil⟩

/-- A bid that is not above the highest leaves it in its place. -/
theorem Highest.append (h : Highest top bids) (hle : ¬ top.value < bid.value) :
    Highest top (bids ++ [bid]) := by
  obtain ⟨before, after, rfl, hlt, hafter⟩ := h
  refine ⟨before, after ++ [bid], by rw [List.append_assoc]; rfl, hlt, fun b hb => ?_⟩
  rcases List.mem_append.mp hb with hb | hb
  · exact hafter b hb
  · rw [List.mem_singleton.mp hb]
    exact BitVec.not_lt.mp hle

/-! ## The digest -/

/-- The top bid of a slot, if there is one, is the first of the highest bids of its recent past. -/
def Tops (bids : List Bid) : Option Bid → Prop
  | none => bids = []
  | some top => Highest top bids

/-- **The ledger digests the past.** -/
structure Mirrors (past : List Happening) (ledger : Ledger) : Prop where
  /-- The slots are those that bids came in for. -/
  slots : ∀ slot, slot ∈ ledger.slots ↔ bidsOf slot past ≠ []
  /-- The keys are those of the bids. -/
  keys : ∀ slot k, k ∈ ledger.keysOf slot ↔ ∃ b ∈ bidsOf slot past, b.key = k
  /-- The top bids are the first of the highest. -/
  tops : ∀ slot, Tops (bidsOf slot past) (ledger.top? slot)
  /-- The arrivals are counted. -/
  received : ledger.received = (arrivals past).length
  /-- The rows of new bids are counted. -/
  unique : ledger.unique = (rows past).countP fun row => row.kind = .all
  /-- The rows of leading bids are counted. -/
  topped : ledger.topped = (rows past).countP fun row => row.kind = .top

namespace Mirrors

variable {past : List Happening} {ledger : Ledger} {slot : Slot}

theorem init : Mirrors [] {} where
  slots slot := by
    rw [show bidsOf slot [] = [] from rfl, Ledger.mem_slots]
    simp
  keys slot k := by
    rw [show bidsOf slot [] = [] from rfl]
    simp [Ledger.keysOf]
  tops _ := rfl
  received := rfl
  unique := rfl
  topped := rfl

/-! ## The ledger decides as the past would -/

/-- The ledger knows a bid if and only if it is not new. -/
theorem seen_iff (h : Mirrors past ledger) : ledger.seen bid = true ↔ ¬ IsNew past bid := by
  rw [isNew_iff]
  unfold Ledger.seen
  rw [List.contains_iff_mem, h.keys]
  simp

/-- The top bid of a slot is the first of the highest in its recent past. -/
theorem top?_eq_some_iff (h : Mirrors past ledger) :
    ledger.top? slot = some top ↔ Highest top (bidsOf slot past) := by
  have htops := h.tops slot
  cases ht : ledger.top? slot with
  | none =>
      rw [ht] at htops
      rw [show bidsOf slot past = [] from htops]
      constructor
      · intro hn; exact absurd hn (by simp)
      · intro hh; exact absurd hh.mem List.not_mem_nil
  | some t =>
      rw [ht] at htops
      constructor
      · intro hs; exact Option.some.inj hs ▸ htops
      · intro hh; rw [hh.unique htops]

theorem top?_isSome_iff (h : Mirrors past ledger) :
    (ledger.top? slot).isSome ↔ bidsOf slot past ≠ [] := by
  have htops := h.tops slot
  cases ht : ledger.top? slot with
  | none =>
      rw [ht] at htops
      simp [show bidsOf slot past = [] from htops]
  | some t =>
      rw [ht] at htops
      simp [List.ne_nil_of_mem htops.mem]

/-- **Every slot that is remembered has a top bid**, and no other. -/
theorem mem_slots_iff_top? (h : Mirrors past ledger) :
    slot ∈ ledger.slots ↔ (ledger.top? slot).isSome := by
  rw [h.slots, h.top?_isSome_iff]

/-- The bids that count for a slot settle its top bid. -/
theorem top?_congr {past' : List Happening} {ledger' : Ledger} (h : Mirrors past ledger)
    (h' : Mirrors past' ledger') (hb : bidsOf slot past = bidsOf slot past') :
    ledger.top? slot = ledger'.top? slot := by
  refine Option.ext fun top => ?_
  rw [h.top?_eq_some_iff, h'.top?_eq_some_iff, hb]

/-- A bid leads the ledger if and only if it leads the past. -/
theorem leads_iff (h : Mirrors past ledger) : ledger.leads bid = true ↔ Leads past bid := by
  unfold Ledger.leads
  cases ht : ledger.top? bid.slot with
  | none =>
      have hnil : bidsOf bid.slot past = [] := by
        by_contra hne
        have := h.top?_isSome_iff.mpr hne
        rw [ht] at this
        exact Bool.noConfusion this
      simp [leads_of_bidsOf_eq_nil hnil]
  | some top =>
      have hhigh := h.top?_eq_some_iff.mp ht
      rw [decide_eq_true_eq]
      exact hhigh.forall_lt_iff.symm

/-- The ledger brings about the rows that the past calls for. -/
theorem rowsFor_eq (h : Mirrors past ledger) : ledger.rowsFor bid = rowsOn past bid := by
  unfold Ledger.rowsFor rowsOn
  by_cases hn : IsNew past bid <;> by_cases hl : Leads past bid <;>
    simp [hn, hl, h.seen_iff, h.leads_iff]

/-! ## The digest is kept up -/

theorem rows_arrival (past : List Happening) (bid : Bid) :
    rows (past ++ [.arrival bid]) = rows past ++ rowsOn past bid := by
  rw [rows_append, rowsFrom, rowsFrom, List.append_nil]
  rfl

/-- **Taking a bid keeps the digest**: its slot has one bid more to digest, all others have the
same. -/
theorem taken (h : Mirrors past ledger) (bid : Bid) :
    Mirrors (past ++ [.arrival bid]) (ledger.taken bid) where
  slots slot := by
    rw [Ledger.mem_slots_taken, h.slots]
    by_cases hs : slot = bid.slot
    · rw [hs, bidsOf_arrival_self]
      simp
    · rw [bidsOf_arrival_ne hs]
      simp [hs]
  keys slot k := by
    rw [Ledger.mem_keysOf_taken, h.keys]
    by_cases hs : slot = bid.slot
    · rw [hs, bidsOf_arrival_self]
      constructor
      · rintro (⟨-, rfl⟩ | ⟨b, hb, hk⟩)
        · exact ⟨bid, List.mem_append_right _ (List.mem_singleton.mpr rfl), rfl⟩
        · exact ⟨b, List.mem_append_left _ hb, hk⟩
      · rintro ⟨b, hb, hk⟩
        rcases List.mem_append.mp hb with hb | hb
        · exact .inr ⟨b, hb, hk⟩
        · exact .inl ⟨rfl, by rw [← hk, List.mem_singleton.mp hb]⟩
    · rw [bidsOf_arrival_ne hs]
      simp [hs]
  tops slot := by
    rw [Ledger.top?_taken]
    by_cases hs : slot = bid.slot
    · subst hs
      rw [bidsOf_arrival_self]
      split
      · rename_i hl
        exact Highest.of_forall_lt (h.leads_iff.mp hl.2)
      · rename_i hl
        -- a bid that does not lead has one above it, so the slot has a top bid
        have hnot : ¬ Leads past bid := fun hleads => hl ⟨rfl, h.leads_iff.mpr hleads⟩
        obtain ⟨t, ht⟩ : ∃ t, ledger.top? bid.slot = some t := by
          refine Option.isSome_iff_exists.mp (h.top?_isSome_iff.mpr fun hnil => ?_)
          exact hnot (leads_of_bidsOf_eq_nil hnil)
        have hhigh := h.top?_eq_some_iff.mp ht
        rw [ht]
        exact hhigh.append fun hlt => hnot (hhigh.forall_lt_iff.mpr hlt)
    · rw [if_neg fun hl => hs hl.1, bidsOf_arrival_ne hs]
      exact h.tops slot
  received := by
    rw [Ledger.received_taken, h.received, arrivals_append, List.length_append]
    rfl
  unique := by
    rw [Ledger.unique_taken, h.unique, rows_arrival, List.countP_append, rowsOn]
    by_cases hn : IsNew past bid <;> by_cases hl : Leads past bid <;>
      simp [hn, hl, h.seen_iff]
  topped := by
    rw [Ledger.topped_taken, h.topped, rows_arrival, List.countP_append, rowsOn]
    by_cases hn : IsNew past bid <;> by_cases hl : Leads past bid <;>
      simp [hn, hl, h.leads_iff]

/-- **Forgetting slots keeps the digest.** -/
theorem forget (h : Mirrors past ledger) {current oldest : Slot}
    (ho : current.earlier? slotsKept = some oldest) :
    Mirrors (past ++ [.housekeeping current]) (ledger.forget oldest) where
  slots slot := by
    rw [Ledger.mem_slots_forget, h.slots, bidsOf_housekeeping, Happening.evicts_housekeeping ho]
    by_cases hs : slot < oldest <;> simp [hs]
  keys slot k := by
    rw [Ledger.keysOf_forget, bidsOf_housekeeping, Happening.evicts_housekeeping ho]
    by_cases hs : slot < oldest
    · simp [hs]
    · simpa [hs] using h.keys slot k
  tops slot := by
    rw [Ledger.top?_forget, bidsOf_housekeeping, Happening.evicts_housekeeping ho]
    by_cases hs : slot < oldest
    · rw [if_pos hs, if_pos (decide_eq_true hs)]
      rfl
    · rw [if_neg hs, if_neg (by simp [hs])]
      exact h.tops slot
  received := by
    rw [arrivals_append]
    show ledger.received = (arrivals past ++ []).length
    rw [List.append_nil]
    exact h.received
  unique := by
    rw [rows_append]
    show ledger.unique = (rows past ++ []).countP _
    rw [List.append_nil]
    exact h.unique
  topped := by
    rw [rows_append]
    show ledger.topped = (rows past ++ []).countP _
    rw [List.append_nil]
    exact h.topped

end Mirrors

end BidArchive
