import BidArchive.Proofs.Bid.Serving

/-!
# What a run writes

Two questions are put to every arriving bid, and both are answered here from the past
alone, for any steady sink and any way of cutting the bids into batches: whether its key
came up since its slot was last forgotten (`all_rows_of_run`), and whether it is above
every bid for the slot in that time (`top_rows_of_run`). The figures and the slots and
top bids that a recorder reports follow the past in the same way.
-/

namespace BidArchive.Recorder

open Chain (Slot)
open History

variable {σ ε : Type} {sink : Sink σ ε} {s : σ} {calls : List Call} {past rest : List Happening}
  {r : Recorder σ} {bid : Bid} {slot : Slot}

/-! ## At a moment of a run -/

theorem Moment.stats (h : Moment sink s calls past rest r) : r.stats (ε := ε)
    = .ok ⟨(arrivals past).length, (rows past).countP fun row => row.kind = .all,
        (rows past).countP fun row => row.kind = .top, r.ledger.slots.length⟩ := by
  obtain ⟨hm, hl, _⟩ := h.facts
  unfold Recorder.stats
  rw [hl, hm.received, hm.unique, hm.topped, Ledger.length_slots]
  rfl

theorem Moment.trackedSlots (h : Moment sink s calls past rest r) :
    r.trackedSlots (ε := ε) = .ok r.ledger.slots := by
  unfold Recorder.trackedSlots
  rw [h.facts.2.1]
  rfl

theorem Moment.mem_slots (h : Moment sink s calls past rest r) :
    slot ∈ r.ledger.slots ↔ ∃ b ∈ arrivals (recent slot past), b.slot = slot := by
  rw [h.facts.1.slots]
  constructor
  · intro hne
    obtain ⟨b, hb⟩ := List.exists_mem_of_ne_nil _ hne
    obtain ⟨hmem, hslot⟩ := List.mem_filter.mp hb
    exact ⟨b, hmem, of_decide_eq_true hslot⟩
  · rintro ⟨b, hb, hslot⟩
    exact List.ne_nil_of_mem (List.mem_filter.mpr ⟨hb, decide_eq_true hslot⟩)

theorem Moment.topBid (h : Moment sink s calls past rest r) (slot : Slot) :
    r.topBid (ε := ε) slot = .ok (r.ledger.top? slot) := by
  unfold Recorder.topBid
  rw [h.facts.2.1]
  rfl

/-- An arrival leads from one moment of a run to the next. -/
theorem Moment.arrival (hs : sink.Steady) {later : List Happening}
    (h : Moment sink s calls past (.arrival bid :: later) r) :
    ∃ r', Moment sink s calls (past ++ [.arrival bid]) later r'
      ∧ sink.Takes (rowsOn past bid) r.sink r'.sink := by
  obtain ⟨hm, _, _⟩ := h.facts
  obtain ⟨s', hs'⟩ := hs.exists_takes (rowsOn past bid) r.sink
  have ht : take sink bid r = (.ok (), { r with ledger := r.ledger.taken bid, sink := s' }) :=
    take_ok_iff.mpr ⟨s', by rw [hm.rowsFor_eq]; exact hs', rfl⟩
  refine ⟨{ r with ledger := r.ledger.taken bid, sink := s' }, ⟨?_, ?_⟩, hs'⟩
  · rw [undergo_append, h.came]
    show undergo sink r [.arrival bid] = _
    rw [undergo, show meet sink r (.arrival bid) = take sink bid r from rfl, ht]
    rfl
  · rw [h.goes, undergo, show meet sink r (.arrival bid) = take sink bid r from rfl, ht]

/-! ## New bids -/

theorem filter_all_rowsOn : (rowsOn past bid).filter (fun row => row.kind = .all)
    = if IsNew past bid then [⟨.all, bid⟩] else [] := by
  unfold rowsOn
  by_cases hn : IsNew past bid <;> by_cases hl : Leads past bid <;> simp [hn, hl]

/--
**Every bid is written once for as long as its slot is remembered.**

At every moment of a run over a steady sink the recorder has written the rows of its past and
reports its arrivals, its rows of new bids, and the slots with an arrival since they were last
forgotten. The next bid is written as a new one if and only if none of its key arrived since its
slot was last forgotten.
-/
theorem all_rows_of_run (hs : sink.Steady) (hf : Fits calls) (s : σ)
    (hp : calls.flatMap Call.happenings = past ++ rest) :
    ∃ r, Moment sink s calls past rest r
      ∧ sink.Takes (rows past) s r.sink
      ∧ (∃ stats slots, r.stats (ε := ε) = .ok stats ∧ r.trackedSlots (ε := ε) = .ok slots
          ∧ stats.received = (arrivals past).length
          ∧ stats.unique = (rows past).countP (fun row => row.kind = .all)
          ∧ slots.Pairwise (· < ·)
          ∧ ∀ slot, slot ∈ slots ↔ ∃ b ∈ arrivals (recent slot past), b.slot = slot)
      ∧ ∀ bid later, rest = .arrival bid :: later →
          ∃ r', Moment sink s calls (past ++ [.arrival bid]) later r'
            ∧ sink.Takes (rowsOn past bid) r.sink r'.sink
            ∧ (rowsOn past bid).filter (fun row => row.kind = .all)
                = if IsNew past bid then [⟨.all, bid⟩] else [] := by
  obtain ⟨r, h⟩ := exists_moment hs hf s hp
  refine ⟨r, h, h.facts.2.2, ⟨_, _, h.stats, h.trackedSlots, rfl, rfl, ?_, ?_⟩, ?_⟩
  · exact r.ledger.slots_ascending
  · exact fun slot => h.mem_slots
  · rintro bid later rfl
    obtain ⟨r', h', ht⟩ := h.arrival hs
    exact ⟨r', h', ht, filter_all_rowsOn⟩

/-- A bid for slot 7 with bars in its hashes. -/
def bidForSeven : Bid := { Bid.plain ⟨7⟩ 5 with blockHash := "0x|", parentHash := "|" }

/-- A bid that comes twice in a batch, and once more after its slot was forgotten. -/
def lateCalls : List Call :=
  [.process [bidForSeven, bidForSeven], .housekeep ⟨10⟩, .process [bidForSeven]]

/-- Three arrivals, two rows of a new bid. -/
theorem all_rows_of_late_run : (Sink.recording Unit).Steady ∧ Fits lateCalls
    ∧ ∃ r : Recorder (List Row),
        Moment (Sink.recording Unit) [] lateCalls (lateCalls.flatMap Call.happenings) [] r
          ∧ r.sink = [⟨.all, bidForSeven⟩, ⟨.top, bidForSeven⟩, ⟨.all, bidForSeven⟩,
              ⟨.top, bidForSeven⟩] := by
  have hf : Fits lateCalls := by
    intro current hc
    have hcur : current = ⟨10⟩ := by simpa [lateCalls] using hc
    rw [hcur]
    decide
  obtain ⟨r, h, ht, _⟩ := all_rows_of_run (Sink.steady_recording (ε := Unit)) hf []
    (List.append_nil (lateCalls.flatMap Call.happenings)).symm
  refine ⟨Sink.steady_recording, hf, r, h, ?_⟩
  rw [Sink.takes_recording.mp ht]
  decide +kernel

/-! ## Leading bids -/

theorem filter_top_rowsOn : (rowsOn past bid).filter (fun row => row.kind = .top)
    = if Leads past bid then [⟨.top, bid⟩] else [] := by
  unfold rowsOn
  by_cases hn : IsNew past bid <;> by_cases hl : Leads past bid <;> simp [hn, hl]

/--
**The top output follows the first of the highest bids.**

At every moment of a run over a steady sink the recorder reports for every remembered slot, and for
no other, the first of the highest bids since the slot was last forgotten, and counts its rows of
leading bids; between two times that a slot is forgotten those rows rise. The next bid is written
as a leading one if and only if it is above every bid for its slot since that was last forgotten.
-/
theorem top_rows_of_run (hs : sink.Steady) (hf : Fits calls) (s : σ)
    (hp : calls.flatMap Call.happenings = past ++ rest) :
    ∃ r, Moment sink s calls past rest r
      ∧ sink.Takes (rows past) s r.sink
      ∧ (∃ stats slots, r.stats (ε := ε) = .ok stats ∧ r.trackedSlots (ε := ε) = .ok slots
          ∧ stats.topped = (rows past).countP (fun row => row.kind = .top)
          ∧ ∀ slot, ∃ top, r.topBid (ε := ε) slot = .ok top ∧ (top.isSome ↔ slot ∈ slots)
              ∧ ∀ b, top = some b ↔ Highest b (bidsOf slot past))
      ∧ (∀ slot before span, past = before ++ span → (∀ h ∈ span, h.evicts slot = false) →
          rows past = rows before ++ rowsFrom before span
            ∧ ((rowsFrom before span).filter (isTopOf slot)).Pairwise
                fun a b => a.bid.value < b.bid.value)
      ∧ ∀ bid later, rest = .arrival bid :: later →
          ∃ r', Moment sink s calls (past ++ [.arrival bid]) later r'
            ∧ sink.Takes (rowsOn past bid) r.sink r'.sink
            ∧ (rowsOn past bid).filter (fun row => row.kind = .top)
                = if ∀ b ∈ bidsOf bid.slot past, b.value < bid.value then [⟨.top, bid⟩]
                  else [] := by
  obtain ⟨r, h⟩ := exists_moment hs hf s hp
  obtain ⟨hm, _, ht⟩ := h.facts
  refine ⟨r, h, ht, ⟨_, _, h.stats, h.trackedSlots, rfl, fun slot => ?_⟩, ?_, ?_⟩
  · refine ⟨_, h.topBid slot, ?_, fun b => hm.top?_eq_some_iff⟩
    exact hm.mem_slots_iff_top?.symm
  · rintro slot before span rfl hspan
    exact ⟨rows_append before span, tops_rise hspan⟩
  · rintro bid later rfl
    obtain ⟨r', h', htake⟩ := h.arrival hs
    exact ⟨r', h', htake, filter_top_rowsOn⟩

/-- The bid for slot 7 made higher. -/
def raisedForSeven (value : Wide) : Bid := { bidForSeven with value := value }

/-- Bids that rise, tie and fall, in two batches. -/
def raisingCalls : List Call :=
  [.process [raisedForSeven 5, raisedForSeven 9], .housekeep ⟨9⟩,
    .process [{ raisedForSeven 9 with relay := "other" }, raisedForSeven 6]]

/-- The second bid comes to be the top bid and stays it. -/
theorem top_rows_of_raising_run : (Sink.recording Unit).Steady ∧ Fits raisingCalls
    ∧ ∃ r : Recorder (List Row),
        Moment (Sink.recording Unit) [] raisingCalls (raisingCalls.flatMap Call.happenings) [] r
          ∧ r.topBid (ε := Unit) ⟨7⟩ = .ok (some (raisedForSeven 9)) := by
  have hf : Fits raisingCalls := by
    intro current hc
    have hcur : current = ⟨9⟩ := by simpa [raisingCalls] using hc
    rw [hcur]
    decide
  obtain ⟨r, h, _, ⟨_, _, _, _, _, htop⟩, _⟩ :=
    top_rows_of_run (Sink.steady_recording (ε := Unit)) hf []
      (List.append_nil (raisingCalls.flatMap Call.happenings)).symm
  obtain ⟨top, htop, _, hhigh⟩ := htop ⟨7⟩
  refine ⟨Sink.steady_recording, hf, r, h, ?_⟩
  rw [htop, (hhigh (raisedForSeven 9)).mpr]
  refine ⟨[raisedForSeven 5], [{ raisedForSeven 9 with relay := "other" }, raisedForSeven 6],
    by decide +kernel, by decide +kernel, by decide +kernel⟩

end BidArchive.Recorder
