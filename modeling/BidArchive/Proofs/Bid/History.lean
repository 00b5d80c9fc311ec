import Mathlib.Data.List.DropRight
import BidArchive.Bid.Recorder
import BidArchive.Proofs.Bid.Identity

/-!
# The past of a recorder

What a recorder ought to write is said here without its ledger, in terms of all that
happened so far: bids that arrived, and housekeeping that let slots fall behind.
Every slot has its own recent past, which begins behind the last housekeeping that
forgot it. A bid is new if none of its key arrived in the recent past of its slot,
and it leads if it is above all bids for its slot in that time.

A bid that leads is new: one of the same key would have had the same slot and the
same value.
-/

namespace BidArchive

open Chain (Slot)

/-- What happens to a recorder. -/
inductive Happening
  | arrival (bid : Bid)
  | housekeeping (current : Slot)
deriving DecidableEq, Repr

namespace Happening

/-- The bid that arrives. -/
def bid? : Happening → Option Bid
  | .arrival bid => some bid
  | .housekeeping _ => none

/-- The slot falls behind. -/
def evicts (slot : Slot) : Happening → Bool
  | .arrival _ => false
  | .housekeeping current =>
    match current.earlier? slotsKept with
    | some oldest => decide (slot < oldest)
    | none => false

theorem evicts_housekeeping {current oldest : Slot} (h : current.earlier? slotsKept = some oldest)
    (slot : Slot) : (Happening.housekeeping current).evicts slot = decide (slot < oldest) := by
  simp only [evicts, h]

/-- Housekeeping forgets the slots that are more than two behind the current one. -/
theorem evicts_housekeeping_iff {current oldest : Slot}
    (h : current.earlier? slotsKept = some oldest) {slot : Slot} :
    (Happening.housekeeping current).evicts slot = true
      ↔ slot.number.toInt < current.number.toInt - 2 := by
  rw [evicts_housekeeping h, decide_eq_true_iff, Slot.lt_iff, Slot.earlier?_eq_some_iff.mp h]
  rfl

end Happening

namespace History

/-- The bids that arrived, in order. -/
def arrivals (past : List Happening) : List Bid := past.filterMap Happening.bid?

/-- What happened since the slot was last forgotten, if it ever was. -/
def recent (slot : Slot) (past : List Happening) : List Happening :=
  past.rtakeWhile fun h => !h.evicts slot

/-- The bids for a slot that arrived since it was last forgotten. -/
def bidsOf (slot : Slot) (past : List Happening) : List Bid :=
  (arrivals (recent slot past)).filter (·.slot = slot)

/-- No bid of this key arrived since the bid's slot was last forgotten. -/
def IsNew (past : List Happening) (bid : Bid) : Prop :=
  ∀ b ∈ arrivals (recent bid.slot past), b.key ≠ bid.key

/-- The bid is above all for its slot since that was last forgotten. -/
def Leads (past : List Happening) (bid : Bid) : Prop :=
  ∀ b ∈ bidsOf bid.slot past, b.value < bid.value

instance (past : List Happening) (bid : Bid) : Decidable (IsNew past bid) :=
  inferInstanceAs (Decidable (∀ b ∈ arrivals (recent bid.slot past), b.key ≠ bid.key))

instance (past : List Happening) (bid : Bid) : Decidable (Leads past bid) :=
  inferInstanceAs (Decidable (∀ b ∈ bidsOf bid.slot past, b.value < bid.value))

/-- The rows that the arrival of a bid brings about. -/
def rowsOn (past : List Happening) (bid : Bid) : List Row :=
  (if IsNew past bid then [⟨.all, bid⟩] else []) ++ if Leads past bid then [⟨.top, bid⟩] else []

/-- The rows that a happening brings about. -/
def rowsAt (past : List Happening) : Happening → List Row
  | .arrival bid => rowsOn past bid
  | .housekeeping _ => []

/-- The rows that happenings bring about one after the other, behind a past. -/
def rowsFrom (past : List Happening) : List Happening → List Row
  | [] => []
  | h :: rest => rowsAt past h ++ rowsFrom (past ++ [h]) rest

/-- The rows of a whole past. -/
def rows (past : List Happening) : List Row := rowsFrom [] past

variable {past : List Happening} {slot : Slot} {bid : Bid} {current : Slot}

/-! ## One more happening -/

theorem arrivals_append (p q : List Happening) : arrivals (p ++ q) = arrivals p ++ arrivals q :=
  List.filterMap_append

theorem recent_arrival :
    recent slot (past ++ [.arrival bid]) = recent slot past ++ [.arrival bid] :=
  List.rtakeWhile_concat_pos _ _ _ rfl

theorem recent_of_evicts {h : Happening} (he : h.evicts slot = true) :
    recent slot (past ++ [h]) = [] :=
  List.rtakeWhile_concat_neg _ _ _ (by simp [he])

theorem recent_of_not_evicts {h : Happening} (he : h.evicts slot = false) :
    recent slot (past ++ [h]) = recent slot past ++ [h] :=
  List.rtakeWhile_concat_pos _ _ _ (by simp [he])

theorem bidsOf_arrival_self :
    bidsOf bid.slot (past ++ [.arrival bid]) = bidsOf bid.slot past ++ [bid] := by
  unfold bidsOf
  rw [recent_arrival, arrivals_append, List.filter_append]
  simp [arrivals, Happening.bid?]

theorem bidsOf_arrival_ne (h : slot ≠ bid.slot) :
    bidsOf slot (past ++ [.arrival bid]) = bidsOf slot past := by
  have hb : bid.slot ≠ slot := fun hb => h hb.symm
  unfold bidsOf
  rw [recent_arrival, arrivals_append, List.filter_append]
  simp [arrivals, Happening.bid?, hb]

theorem bidsOf_housekeeping : bidsOf slot (past ++ [.housekeeping current])
    = if (Happening.housekeeping current).evicts slot then [] else bidsOf slot past := by
  unfold bidsOf
  split
  · rename_i he
    rw [recent_of_evicts he]
    rfl
  · rename_i he
    rw [recent_of_not_evicts (Bool.eq_false_iff.mpr he), arrivals_append]
    simp [arrivals, Happening.bid?]

/-! ## New bids and leading bids -/

/-- Only bids for the same slot can have the key of a bid. -/
theorem isNew_iff : IsNew past bid ↔ ∀ b ∈ bidsOf bid.slot past, b.key ≠ bid.key := by
  unfold IsNew bidsOf
  constructor
  · intro h b hb
    exact h b (List.mem_filter.mp hb).1
  · intro h b hb hk
    exact h b (List.mem_filter.mpr ⟨hb, decide_eq_true (Bid.slot_eq_of_key_eq hk)⟩) hk

/-- **A bid that leads is new.** -/
theorem isNew_of_leads (h : Leads past bid) : IsNew past bid := by
  rw [isNew_iff]
  intro b hb hk
  have hlt := h b hb
  rw [Bid.value_eq_of_key_eq hk, BitVec.lt_def] at hlt
  exact Nat.lt_irrefl _ hlt

theorem leads_of_bidsOf_eq_nil (h : bidsOf bid.slot past = []) : Leads past bid := by
  intro b hb
  rw [h] at hb
  exact absurd hb List.not_mem_nil

/-- So a top row never comes without the row of the same bid before it. -/
theorem rowsOn_cases (past : List Happening) (bid : Bid) :
    rowsOn past bid = [] ∨ rowsOn past bid = [⟨.all, bid⟩]
      ∨ rowsOn past bid = [⟨.all, bid⟩, ⟨.top, bid⟩] := by
  unfold rowsOn
  by_cases hn : IsNew past bid
  · rw [if_pos hn]
    by_cases hl : Leads past bid
    · rw [if_pos hl]; exact Or.inr (Or.inr rfl)
    · rw [if_neg hl]; exact Or.inr (Or.inl rfl)
  · rw [if_neg hn, if_neg fun hl => hn (isNew_of_leads hl)]
    exact Or.inl rfl

/-- The same holds of what was written of them when a sink failed. -/
theorem prefix_rowsOn_cases {done : List Row} (h : done <+: rowsOn past bid) :
    done = [] ∨ done = [⟨.all, bid⟩] ∨ done = [⟨.all, bid⟩, ⟨.top, bid⟩] := by
  have hlong : done <+: [⟨.all, bid⟩, ⟨.top, bid⟩] := by
    rcases rowsOn_cases past bid with hr | hr | hr
    all_goals rw [hr] at h
    · exact h.trans List.nil_prefix
    · exact h.trans (List.prefix_append [⟨.all, bid⟩] [(⟨.top, bid⟩ : Row)])
    · exact h
  rcases List.prefix_cons_iff.mp hlong with hd | ⟨t, rfl, ht⟩
  · exact Or.inl hd
  · rcases List.prefix_cons_iff.mp ht with rfl | ⟨u, rfl, hu⟩
    · exact Or.inr (Or.inl rfl)
    · rw [List.prefix_nil.mp hu]
      exact Or.inr (Or.inr rfl)

theorem bid_eq_of_mem_rowsOn {row : Row} (h : row ∈ rowsOn past bid) : row.bid = bid := by
  rcases rowsOn_cases past bid with hr | hr | hr
  all_goals rw [hr] at h
  · exact absurd h List.not_mem_nil
  · rw [List.mem_singleton.mp h]
  · rcases List.mem_cons.mp h with h | h
    · rw [h]
    · rw [List.mem_singleton.mp h]

/-- The two rows of one bid are of different kinds. -/
theorem rowsOn_pairwise_kind (past : List Happening) (bid : Bid) :
    (rowsOn past bid).Pairwise fun a b => a.kind ≠ b.kind := by
  rcases rowsOn_cases past bid with hr | hr | hr
  all_goals rw [hr]
  · exact List.Pairwise.nil
  · exact List.pairwise_singleton _ _
  · simp

theorem isNew_of_mem_rowsOn (h : ⟨.all, bid⟩ ∈ rowsOn past bid) : IsNew past bid := by
  by_contra hn
  unfold rowsOn at h
  rw [if_neg hn, List.nil_append] at h
  split at h <;> simp at h

theorem leads_of_mem_rowsOn (h : ⟨.top, bid⟩ ∈ rowsOn past bid) : Leads past bid := by
  by_contra hl
  unfold rowsOn at h
  rw [if_neg hl, List.append_nil] at h
  split at h <;> simp at h

/-! ## Rows of a longer past -/

theorem rowsFrom_append (past p q : List Happening) :
    rowsFrom past (p ++ q) = rowsFrom past p ++ rowsFrom (past ++ p) q := by
  induction p generalizing past with
  | nil => rw [List.nil_append, List.append_nil]; rfl
  | cons h p ih =>
      rw [List.cons_append, rowsFrom, rowsFrom, ih, List.append_assoc, List.append_assoc]
      rfl

theorem rows_append (past later : List Happening) :
    rows (past ++ later) = rows past ++ rowsFrom past later :=
  rowsFrom_append [] past later

/-- Rows carry bids that arrived. -/
theorem arrival_of_mem_rowsFrom {row : Row} {later : List Happening}
    (h : row ∈ rowsFrom past later) : .arrival row.bid ∈ later := by
  induction later generalizing past with
  | nil => exact absurd h List.not_mem_nil
  | cons e rest ih =>
      rw [rowsFrom] at h
      rcases List.mem_append.mp h with h | h
      · cases e with
        | housekeeping current => exact absurd h List.not_mem_nil
        | arrival bid =>
            rw [bid_eq_of_mem_rowsOn h]
            exact List.mem_cons_self
      · exact List.mem_cons_of_mem _ (ih h)

/-- As long as a slot is not forgotten, its recent past only grows. -/
theorem recent_append {later : List Happening} (h : ∀ e ∈ later, e.evicts slot = false) :
    recent slot (past ++ later) = recent slot past ++ later := by
  induction later generalizing past with
  | nil => rw [List.append_nil, List.append_nil]
  | cons e rest ih =>
      rw [List.append_cons, ih (fun x hx => h x (List.mem_cons_of_mem _ hx)),
        recent_of_not_evicts (h e List.mem_cons_self), List.append_assoc, List.singleton_append]

/-- What was written of a slot that is not forgotten since stems from a bid that counts. -/
theorem bid_mem_bidsOf {row : Row} {later : List Happening} (hrow : row ∈ rowsFrom past later)
    (h : ∀ e ∈ later, e.evicts row.bid.slot = false) :
    row.bid ∈ bidsOf row.bid.slot (past ++ later) := by
  refine List.mem_filter.mpr ⟨?_, decide_eq_true rfl⟩
  rw [recent_append h, arrivals_append]
  refine List.mem_append_right _ (List.mem_filterMap.mpr ?_)
  exact ⟨_, arrival_of_mem_rowsFrom hrow, rfl⟩

/-! ## Slots without late bids -/

/-- No bid for the slot comes after housekeeping that forgot the slot. -/
def Timely (slot : Slot) (past : List Happening) : Prop :=
  past.Pairwise fun h later => ∀ bid, later = .arrival bid → bid.slot = slot → h.evicts slot = false

theorem Timely.of_append {later : List Happening} (h : Timely slot (past ++ later)) :
    Timely slot past :=
  (List.pairwise_append.mp h).1

/-- A bid that is not late finds its slot never forgotten. -/
theorem Timely.not_evicts (h : Timely bid.slot (past ++ [.arrival bid])) :
    ∀ e ∈ past, e.evicts bid.slot = false := by
  obtain ⟨_, _, hcross⟩ := List.pairwise_append.mp h
  exact fun e he => hcross e he _ (List.mem_singleton.mpr rfl) bid rfl rfl

theorem timely_of_not_evicts (h : ∀ e ∈ past, e.evicts slot = false) : Timely slot past :=
  List.pairwise_of_forall_mem_list fun e he _ _ _ _ _ => h e he

/--
**What a row asks of the bids that count, it asks of the rows before it.**

If a bid gets a row of some kind only when it stands in a relation to all bids for its slot since
that was last forgotten, then it stands in that relation to the bids of all earlier rows of this
kind and slot, provided that no bid for the slot comes late.
-/
theorem rowsFrom_pairwise {kind : RowKind} {R : Bid → Bid → Prop}
    (hR : ∀ past bid, ⟨kind, bid⟩ ∈ rowsOn past bid → ∀ b ∈ bidsOf bid.slot past, R b bid)
    (past later : List Happening) :
    (rowsFrom past later).Pairwise fun a b => a.kind = kind → b.kind = kind →
      a.bid.slot = b.bid.slot → Timely b.bid.slot later → R a.bid b.bid := by
  -- from the end, since a bid is compared with what came before it
  induction later using List.reverseRecOn with
  | nil => exact List.Pairwise.nil
  | append_singleton later e ih =>
      have hbefore : (rowsFrom past later).Pairwise fun a b => a.kind = kind → b.kind = kind →
          a.bid.slot = b.bid.slot → Timely b.bid.slot (later ++ [e]) → R a.bid b.bid :=
        ih.imp fun hab ha hb hs ht => hab ha hb hs ht.of_append
      rw [rowsFrom_append, rowsFrom, rowsFrom, List.append_nil]
      cases e with
      | housekeeping current =>
          rw [rowsAt, List.append_nil]
          exact hbefore
      | arrival bid =>
          rw [rowsAt]
          refine List.pairwise_append.mpr ⟨hbefore, ?_, ?_⟩
          · refine (rowsOn_pairwise_kind _ bid).imp fun hne ha hb => ?_
            exact absurd (ha.trans hb.symm) hne
          · -- the earlier row's bid is one of those that the new one was compared with
            rintro a ha ⟨_, b⟩ hb - rfl hs ht
            obtain rfl : b = bid := bid_eq_of_mem_rowsOn hb
            dsimp only at hs ht
            refine hR _ _ hb a.bid ?_
            have hmem := bid_mem_bidsOf ha (fun e he => hs ▸ ht.not_evicts e he)
            rw [hs] at hmem
            exact hmem

/-- The row is a top row of the slot. -/
def isTopOf (slot : Slot) (row : Row) : Bool :=
  decide (row.kind = .top) && decide (row.bid.slot = slot)

theorem isTopOf_iff {row : Row} :
    isTopOf slot row = true ↔ row.kind = .top ∧ row.bid.slot = slot := by
  rw [isTopOf, Bool.and_eq_true, decide_eq_true_iff, decide_eq_true_iff]

/-- **As long as a slot is not forgotten, its top rows rise.** -/
theorem tops_rise {later : List Happening} (h : ∀ e ∈ later, e.evicts slot = false) :
    ((rowsFrom past later).filter (isTopOf slot)).Pairwise
      fun a b => a.bid.value < b.bid.value := by
  rw [List.pairwise_filter]
  refine (rowsFrom_pairwise (R := fun a b => a.value < b.value)
    (fun _ _ hb => leads_of_mem_rowsOn hb) past later).imp fun {a b} hab ha hb => ?_
  obtain ⟨hak, has⟩ := isTopOf_iff.mp ha
  obtain ⟨hbk, hbs⟩ := isTopOf_iff.mp hb
  exact hab hak hbk (has.trans hbs.symm) (hbs ▸ timely_of_not_evicts h)

end History

end BidArchive
