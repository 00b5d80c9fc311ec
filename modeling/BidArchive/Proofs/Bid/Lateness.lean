import BidArchive.Proofs.Bid.Output

/-!
# Late bids

Housekeeping forgets slots on the ground that no bids for them are still to come.
Whether that holds is up to those who send bids: nothing compares a bid's slot with
the slots that were forgotten.

Where it holds, housekeeping cannot be told from the output (`housekeeping_unseen`):
the rows, the figures and the top bids are those of a recorder that never forgets. A
slot that a late bid comes in for begins anew. Then a bid that was written before can
be written again, and a lower bid can follow a higher one in the top output
(`late_bids_relapse`); for all other slots neither happens (`rows_unless_late`).
-/

namespace BidArchive

open Chain (Slot)

namespace History

variable {past : List Happening} {slot : Slot} {bid : Bid}

/-! ## Housekeeping left out -/

/-- The same bids without housekeeping in between. -/
def undisturbed (past : List Happening) : List Happening := (arrivals past).map .arrival

theorem undisturbed_append (p q : List Happening) :
    undisturbed (p ++ q) = undisturbed p ++ undisturbed q := by
  unfold undisturbed
  rw [arrivals_append, List.map_append]

theorem arrivals_undisturbed : arrivals (undisturbed past) = arrivals past := by
  unfold undisturbed
  induction arrivals past with
  | nil => rfl
  | cons bid bids ih => exact congrArg (bid :: ·) ih

/-- For a slot that was never forgotten all its bids count. -/
theorem bidsOf_of_not_evicts (h : ∀ e ∈ past, e.evicts slot = false) :
    bidsOf slot past = (arrivals past).filter (·.slot = slot) := by
  have hr : recent slot ([] ++ past) = recent slot [] ++ past := recent_append h
  unfold bidsOf
  rw [show recent slot past = past from hr]

theorem bidsOf_undisturbed : bidsOf slot (undisturbed past)
    = (arrivals past).filter (·.slot = slot) := by
  rw [bidsOf_of_not_evicts, arrivals_undisturbed]
  intro e he
  obtain ⟨bid, _, rfl⟩ := List.mem_map.mp he
  rfl

/-- The rows of a bid depend on nothing but the bids that count for its slot. -/
theorem rowsOn_congr {p q : List Happening} (h : bidsOf bid.slot p = bidsOf bid.slot q) :
    rowsOn p bid = rowsOn q bid := by
  have hn : IsNew p bid ↔ IsNew q bid := by rw [isNew_iff, isNew_iff, h]
  have hl : Leads p bid ↔ Leads q bid := by unfold Leads; rw [h]
  unfold rowsOn
  simp only [hn, hl]

/-- **Where no bid comes late, housekeeping changes no row.** -/
theorem rows_undisturbed (h : ∀ slot, Timely slot past) : rows (undisturbed past) = rows past := by
  induction past using List.reverseRecOn with
  | nil => rfl
  | append_singleton past e ih =>
      have hpast := ih fun slot => (h slot).of_append
      rw [undisturbed_append, rows_append, rows_append, hpast]
      congr 1
      cases e with
      | housekeeping current => rfl
      | arrival bid =>
          -- its slot was never forgotten, so the same bids count with and without housekeeping
          show rowsOn (undisturbed past) bid ++ [] = rowsOn past bid ++ []
          rw [rowsOn_congr]
          rw [bidsOf_undisturbed, bidsOf_of_not_evicts (h bid.slot).not_evicts]

end History

/-! ## Calls and moments -/

namespace Recorder

open History

variable {σ ε : Type} {sink : Sink σ ε} {s : σ} {calls : List Call} {past rest : List Happening}
  {r : Recorder σ} {slot current : Slot}

/-- The call is one for bids. -/
def Call.bringsBids : Call → Bool
  | .process _ => true
  | .housekeep _ => false

/-- No bid is brought after housekeeping that forgot its slot. -/
def NoneLate (calls : List Call) : Prop :=
  calls.Pairwise fun call later => ∀ current batch, call = .housekeep current →
    later = .process batch → ∀ bid ∈ batch, current.number.toInt - 2 ≤ bid.slot.number.toInt

theorem happenings_bringsBids (calls : List Call) :
    (calls.filter Call.bringsBids).flatMap Call.happenings
      = undisturbed (calls.flatMap Call.happenings) := by
  induction calls with
  | nil => rfl
  | cons call rest ih =>
      rw [List.flatMap_cons, undisturbed_append, ← ih]
      cases call with
      | housekeep current => rfl
      | process batch =>
          have hb : undisturbed (batch.map .arrival) = batch.map .arrival := by
            unfold undisturbed arrivals
            rw [List.filterMap_map]
            exact congrArg _ List.filterMap_some
          rw [List.filter_cons_of_pos rfl, List.flatMap_cons]
          exact congrArg (· ++ _) hb.symm

theorem not_evicts_of_le
    (h : current.number.toInt - 2 ≤ slot.number.toInt) :
    (Happening.housekeeping current).evicts slot = false := by
  cases ho : current.earlier? slotsKept with
  | none => simp only [Happening.evicts, ho]
  | some oldest =>
      refine Bool.eq_false_iff.mpr fun he => ?_
      have := (Happening.evicts_housekeeping_iff ho).mp he
      omega

theorem not_evicts_of_calls
    (h : ∀ current, .housekeep current ∈ calls → current.number.toInt - 2 ≤ slot.number.toInt) :
    ∀ e ∈ calls.flatMap Call.happenings, e.evicts slot = false := by
  intro e he
  obtain ⟨call, hcall, he⟩ := List.mem_flatMap.mp he
  cases call with
  | process batch =>
      obtain ⟨bid, _, rfl⟩ := List.mem_map.mp he
      rfl
  | housekeep current =>
      obtain rfl := List.mem_singleton.mp he
      exact not_evicts_of_le (h current hcall)

theorem NoneLate.timely (h : NoneLate calls) (slot : Slot) :
    Timely slot (calls.flatMap Call.happenings) := by
  refine List.pairwise_flatMap.mpr ⟨fun call _ => ?_, h.imp fun {call later} hcall => ?_⟩
  · cases call with
    | housekeep current => exact List.pairwise_singleton _ _
    | process batch =>
        refine timely_of_not_evicts fun e he => ?_
        obtain ⟨bid, _, rfl⟩ := List.mem_map.mp he
        rfl
  · rintro e he _ hlater bid rfl rfl
    cases call with
    | process batch =>
        obtain ⟨b, _, rfl⟩ := List.mem_map.mp he
        rfl
    | housekeep current =>
        obtain rfl := List.mem_singleton.mp he
        cases later with
        | housekeep c => exact absurd (List.mem_singleton.mp hlater) (by simp)
        | process batch =>
            obtain ⟨b, hb, hbid⟩ := List.mem_map.mp hlater
            obtain rfl := Happening.arrival.inj hbid
            exact not_evicts_of_le (hcall current batch rfl rfl b hb)

/-- A run over a steady sink comes to its end. -/
theorem exists_end (hs : sink.Steady) (hf : Fits calls) (s : σ) :
    ∃ r, Moment sink s calls (calls.flatMap Call.happenings) [] r
      ∧ serve sink { sink := s } calls = (.ok (), r) := by
  obtain ⟨r, h⟩ := exists_moment hs hf s (List.append_nil (calls.flatMap Call.happenings)).symm
  exact ⟨r, h, h.goes⟩

/-- What disappears is what is counted. -/
theorem length_sub_length_filter (slots : List Slot) (p : Slot → Bool) :
    slots.length - (slots.filter p).length
      = (slots.filter fun slot => decide (slot ∉ slots.filter p)).length := by
  have hrest : (slots.filter fun slot => decide (slot ∉ slots.filter p))
      = slots.filter fun slot => !p slot := by
    refine List.filter_congr fun slot hslot => ?_
    rw [Bool.eq_iff_iff]
    simp [List.mem_filter, hslot]
  have hsum := List.length_eq_length_filter_add (l := slots) p
  rw [hrest]
  omega

/-! ## One call for housekeeping -/

theorem slots_forget_earlier {ledger : Ledger} {oldest : Slot}
    (ho : current.earlier? slotsKept = some oldest) : (ledger.forget oldest).slots
      = ledger.slots.filter fun slot =>
          decide (current.number.toInt - 2 ≤ slot.number.toInt) := by
  rw [Ledger.slots_forget]
  refine List.filter_congr fun slot _ => decide_eq_decide.mpr ?_
  rw [Slot.le_iff, Slot.earlier?_eq_some_iff.mp ho]
  rfl

/-- **Housekeeping answers how many slots it forgot**, and keeps those from two before the current
one on. -/
theorem housekeep_ok (hl : r.locked = false) (hc : (current.earlier? slotsKept).isSome) :
    ∃ r', r.housekeep (ε := ε) current
        = (.ok (r.ledger.slots.filter fun slot => decide (slot ∉ r'.ledger.slots)).length, r')
      ∧ r'.locked = false ∧ r'.sink = r.sink
      ∧ r'.ledger.slots = r.ledger.slots.filter (fun slot =>
          decide (current.number.toInt - 2 ≤ slot.number.toInt))
      ∧ ∀ slot, slot.number.toInt < current.number.toInt - 2 → r'.ledger.top? slot = none := by
  obtain ⟨oldest, ho⟩ := Option.isSome_iff_exists.mp hc
  refine ⟨{ r with ledger := r.ledger.forget oldest }, ?_, hl, rfl, slots_forget_earlier ho, ?_⟩
  · unfold housekeep
    rw [ho, hl]
    dsimp only
    rw [Ledger.slots_forget, ← length_sub_length_filter, ← Ledger.slots_forget,
      Ledger.length_slots, Ledger.length_slots]
    rfl
  · intro slot hslot
    have hlt : slot < oldest := by
      rw [Slot.lt_iff, Slot.earlier?_eq_some_iff.mp ho]
      exact hslot
    exact Ledger.top?_forget.trans (if_pos hlt)

/-- Two moments with the same bids and rows report the same figures. -/
theorem Moment.stats_congr {calls' : List Call} {past' rest' : List Happening} {r' : Recorder σ}
    (h : Moment sink s calls past rest r) (h' : Moment sink s calls' past' rest' r')
    (ha : arrivals past' = arrivals past) (hr : rows past' = rows past) :
    ∃ stats stats', r.stats (ε := ε) = .ok stats ∧ r'.stats (ε := ε) = .ok stats'
      ∧ stats'.received = stats.received ∧ stats'.unique = stats.unique
      ∧ stats'.topped = stats.topped := by
  refine ⟨_, _, h.stats, h'.stats, ?_, ?_, ?_⟩
  · rw [ha]
  · rw [hr]
  · rw [hr]

/-! ## Housekeeping and its absence -/

/--
**Without late bids housekeeping cannot be seen.**

If no bid is brought after housekeeping that forgot its slot, then the run without housekeeping
writes the same rows and reports the same figures and, for every slot that was never forgotten, the
same top bid. With it, nothing from before two slots behind the current one is remembered once
housekeeping is done, and it answers how many slots went.
-/
theorem housekeeping_unseen (hs : sink.Steady) (hf : Fits calls) (ht : NoneLate calls) (s : σ) :
    ∃ r r', serve sink { sink := s } calls = (.ok (), r)
      ∧ serve sink { sink := s } (calls.filter Call.bringsBids) = (.ok (), r')
      ∧ (∃ written, sink.Takes written s r.sink ∧ sink.Takes written s r'.sink)
      ∧ r'.sink = r.sink
      ∧ (∃ stats stats', r.stats (ε := ε) = .ok stats ∧ r'.stats (ε := ε) = .ok stats'
          ∧ stats'.received = stats.received ∧ stats'.unique = stats.unique
          ∧ stats'.topped = stats.topped)
      ∧ (∀ slot, (∀ current, .housekeep current ∈ calls →
            current.number.toInt - 2 ≤ slot.number.toInt) →
          ∃ top, r.topBid (ε := ε) slot = .ok top ∧ r'.topBid (ε := ε) slot = .ok top)
      ∧ ∀ before current after, calls = before ++ .housekeep current :: after →
          ∃ r₁ n r₂ slots₁ slots₂, serve sink { sink := s } before = (.ok (), r₁)
            ∧ r₁.housekeep (ε := ε) current = (.ok n, r₂)
            ∧ serve sink r₂ after = (.ok (), r)
            ∧ r₁.trackedSlots (ε := ε) = .ok slots₁ ∧ r₂.trackedSlots (ε := ε) = .ok slots₂
            ∧ (∀ slot ∈ slots₂, slot ∈ slots₁ ∧ current.number.toInt - 2 ≤ slot.number.toInt)
            ∧ (∀ slot, slot.number.toInt < current.number.toInt - 2 →
                r₂.topBid (ε := ε) slot = .ok none)
            ∧ n = (slots₁.filter fun slot => decide (slot ∉ slots₂)).length := by
  obtain ⟨r, h, hrun⟩ := exists_end hs hf s
  have hf' : Fits (calls.filter Call.bringsBids) :=
    fun current hc => hf current (List.mem_filter.mp hc).1
  obtain ⟨r', h', hrun'⟩ := exists_end hs hf' s
  rw [happenings_bringsBids] at h'
  have hrows := rows_undisturbed ht.timely
  obtain ⟨hm, hl, htakes⟩ := h.facts
  obtain ⟨hm', hl', htakes'⟩ := h'.facts
  -- both runs brought the sink the same rows, which settles what it came to
  rw [hrows] at htakes'
  refine ⟨r, r', hrun, hrun', ⟨_, htakes, htakes'⟩, htakes'.unique htakes,
    h.stats_congr h' arrivals_undisturbed hrows, fun slot hslot => ?_, ?_⟩
  · refine ⟨_, h.topBid slot, ?_⟩
    rw [h'.topBid, hm'.top?_congr hm]
    rw [bidsOf_undisturbed, bidsOf_of_not_evicts (not_evicts_of_calls hslot)]
  · rintro before current after rfl
    have hfb : Fits before := fun c hc => hf c (List.mem_append_left _ hc)
    obtain ⟨r₁, h₁, hrun₁⟩ := exists_end hs hfb s
    obtain ⟨r₂, h₂, hl₂, -, hslots, htop⟩ := housekeep_ok (ε := ε) h₁.facts.2.1
      (hf current (List.mem_append_right _ List.mem_cons_self))
    refine ⟨r₁, _, r₂, _, _, hrun₁, h₂, ?_, h₁.trackedSlots, ?_, ?_, ?_, rfl⟩
    · -- the whole run goes on where housekeeping left off
      rw [serve_append, hrun₁] at hrun
      dsimp only at hrun
      rw [serve, answer, meet, h₂] at hrun
      exact hrun
    · unfold Recorder.trackedSlots
      rw [hl₂]
      rfl
    · intro slot hslot
      rw [hslots] at hslot
      obtain ⟨hmem, hle⟩ := List.mem_filter.mp hslot
      exact ⟨hmem, of_decide_eq_true hle⟩
    · intro slot hslot
      unfold Recorder.topBid
      rw [hl₂, htop slot hslot]
      rfl

/-- Housekeeping that goes back and forth between bids that are never late. -/
def timelyCalls : List Call :=
  [.process [raisedForSeven 5], .housekeep ⟨8⟩, .housekeep ⟨3⟩,
    .process [raisedForSeven 5, raisedForSeven 9], .housekeep ⟨10⟩]

theorem fits_timelyCalls : Fits timelyCalls := by decide

theorem noneLate_timelyCalls : NoneLate timelyCalls := by
  simp [NoneLate, timelyCalls, raisedForSeven, bidForSeven, Bid.plain]

/-- The run without housekeeping ends with the same rows. -/
theorem housekeeping_unseen_between_timely_bids :
    (Sink.recording Unit).Steady ∧ Fits timelyCalls ∧ NoneLate timelyCalls
      ∧ ∃ r r', serve (Sink.recording Unit) { sink := [] } timelyCalls = (.ok (), r)
        ∧ serve (Sink.recording Unit) { sink := [] }
            [.process [raisedForSeven 5], .process [raisedForSeven 5, raisedForSeven 9]]
            = (.ok (), r')
        ∧ r'.sink = r.sink := by
  obtain ⟨r, r', hr, hr', _, hsink, _⟩ := housekeeping_unseen (Sink.steady_recording (ε := Unit))
    fits_timelyCalls noneLate_timelyCalls []
  exact ⟨Sink.steady_recording, fits_timelyCalls, noneLate_timelyCalls, r, r', hr, hr', hsink⟩

/-! ## Late bids -/

/--
**Late bids aside, a bid is written once and the top rows rise.**

Over a steady sink every run comes to its end. Of the rows that it writes no two rows of new bids
have the same key and no top row has a value as low as that of an earlier top row of its slot,
unless housekeeping had forgotten the slot before the bid came.
-/
theorem rows_unless_late (hs : sink.Steady) (hf : Fits calls) (s : σ) :
    ∃ r written, serve sink { sink := s } calls = (.ok (), r)
      ∧ sink.Takes written s r.sink
      ∧ written.Pairwise (fun a b => a.kind = .all → b.kind = .all →
          Timely b.bid.slot (calls.flatMap Call.happenings) → a.bid.key ≠ b.bid.key)
      ∧ written.Pairwise (fun a b => a.kind = .top → b.kind = .top → a.bid.slot = b.bid.slot →
          Timely b.bid.slot (calls.flatMap Call.happenings) → a.bid.value < b.bid.value) := by
  obtain ⟨r, h, hrun⟩ := exists_end hs hf s
  refine ⟨r, rows (calls.flatMap Call.happenings), hrun, h.facts.2.2, ?_, ?_⟩
  · -- bids of one key are for one slot, so it is enough to look at pairs of one slot
    refine (rowsFrom_pairwise (R := fun a b => a.key ≠ b.key)
      (fun _ _ hb => isNew_iff.mp (isNew_of_mem_rowsOn hb)) [] _).imp ?_
    exact fun hab ha hb ht hk => hab ha hb (Bid.slot_eq_of_key_eq hk) ht hk
  · exact rowsFrom_pairwise (R := fun a b => a.value < b.value)
      (fun _ _ hb => leads_of_mem_rowsOn hb) [] _

/-- Without late bids the bid that comes twice is written once. -/
theorem rows_of_timely_run : (Sink.recording Unit).Steady ∧ Fits timelyCalls
    ∧ ∃ r : Recorder (List Row),
        serve (Sink.recording Unit) { sink := [] } timelyCalls = (.ok (), r)
          ∧ r.sink.Pairwise fun a b => a.kind = .all → b.kind = .all → a.bid.key ≠ b.bid.key := by
  obtain ⟨r, written, hr, ht, hall, _⟩ :=
    rows_unless_late (Sink.steady_recording (ε := Unit)) fits_timelyCalls []
  rw [Sink.takes_recording, List.nil_append] at ht
  rw [← ht] at hall
  exact ⟨Sink.steady_recording, fits_timelyCalls, r, hr,
    hall.imp fun hab ha hb => hab ha hb (noneLate_timelyCalls.timely _)⟩

/-- Bids for slot 7 before and after it is forgotten. -/
def relapsingCalls : List Call :=
  [.process [raisedForSeven 9], .housekeep ⟨10⟩, .process [raisedForSeven 5, raisedForSeven 9]]

theorem fits_relapsingCalls : Fits relapsingCalls := by decide

/-- **A late bid begins its slot anew**: with it a bid is written again and the top output falls
back, even if the current slot only moves on. -/
theorem late_bids_relapse : Fits relapsingCalls
    ∧ (relapsingCalls.filterMap Call.current?).Pairwise (· ≤ ·)
    ∧ ∃ r : Recorder (List Row),
        serve (Sink.recording Unit) { sink := [] } relapsingCalls = (.ok (), r)
          ∧ ¬ r.sink.Pairwise (fun a b => a.kind = .all → b.kind = .all → a.bid.key ≠ b.bid.key)
          ∧ ¬ r.sink.Pairwise (fun a b => a.kind = .top → b.kind = .top →
              a.bid.slot = b.bid.slot → a.bid.value ≤ b.bid.value) := by
  obtain ⟨r, h, hr⟩ := exists_end (Sink.steady_recording (ε := Unit)) fits_relapsingCalls []
  have hsink : r.sink = [⟨.all, raisedForSeven 9⟩, ⟨.top, raisedForSeven 9⟩,
      ⟨.all, raisedForSeven 5⟩, ⟨.top, raisedForSeven 5⟩, ⟨.all, raisedForSeven 9⟩,
      ⟨.top, raisedForSeven 9⟩] := by
    rw [Sink.takes_recording.mp h.facts.2.2]
    decide +kernel
  refine ⟨fits_relapsingCalls, List.pairwise_singleton _ _, r, hr, fun hkeys => ?_, fun htops => ?_⟩
  · rw [hsink] at hkeys
    exact (List.pairwise_cons.mp hkeys).1 ⟨.all, raisedForSeven 9⟩ (by simp) rfl rfl rfl
  · rw [hsink] at htops
    have hfall := (List.pairwise_cons.mp (List.pairwise_cons.mp htops).2).1
      ⟨.top, raisedForSeven 5⟩ (by simp) rfl rfl rfl
    exact absurd hfall (by decide)

end Recorder

end BidArchive
