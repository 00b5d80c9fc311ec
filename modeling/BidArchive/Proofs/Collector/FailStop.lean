import BidArchive.Proofs.Bid.Lateness
import BidArchive.Proofs.Bid.Refusal
import BidArchive.Proofs.Chain.Starts
import BidArchive.Proofs.Collector.Ending
import BidArchive.Settings.Basic

/-!
# Collectors over a sink that fails

As long as a collector is open its sink has taken every row that it was asked for
(`exists_rows_of_isOpen`). Only two steps end it: the flush, which comes behind
cancellation, and a batch that cannot be processed (`ends_of_step`). Housekeeping is no
third one, since the slots of a clock are far from the ends of their range.

Behind either nothing is asked of the sink any more, and what waits in the channels
stays there (`log_of_run`).
-/

namespace BidArchive

open Chain (Slot)

variable {σ ε : Type} {sink : Sink σ ε}

/-- The sink may fail, but it never crashes. -/
def Sink.NeverCrashes (sink : Sink σ ε) : Prop := ∀ row s, (sink.write row s).1 ≠ .crashed

theorem Sink.log_of_write {row : Row} {verdict : Verdict ε} {s s' : σ × List (Entry ε)}
    (h : sink.logged.write row s = (verdict, s')) : s'.2 = s.2 ++ [.write row verdict] := by
  obtain ⟨hv, rfl⟩ := Prod.mk.inj h
  rw [← hv]

/-! ## The slots of a clock -/

namespace Chain.Slot

open Time (Instant)

/-- **The slots of a clock are far from the ends of their range**, so that the slots from which on
bids are kept can be told. -/
theorem isSome_earlier?_of_atInstant? {now : Instant} {current : Slot}
    (h : atInstant? now = some current) : (current.earlier? slotsKept).isSome := by
  have hkept : slotsKept.toInt = 2 := by decide
  obtain ⟨ms, _, hms, hat, hsame⟩ := exists_atInstant? now
  obtain rfl := Option.some.inj (h.symm.trans hsame)
  have hbegun := le_of_at? hat
  have hbounds := now.millis_bounds
  unfold startInt at hbegun
  obtain ⟨w, hw⟩ := Word.exists_toInt_eq (n := current.number.toInt - slotsKept.toInt) (by omega)
    (by omega)
  exact Option.isSome_iff_exists.mpr ⟨⟨w⟩, earlier?_eq_some_iff.mpr hw⟩

end Chain.Slot

/-- A recorder that is not locked tells its figures. -/
theorem Recorder.stats_ne_error {r : Recorder σ} (hl : r.locked = false)
    (cause : RecorderFault ε) : r.stats ≠ .error cause := by
  unfold stats
  rw [hl]
  simp

namespace Collector

variable {c c' : Collector σ ε} {source : Source} {acts : List Act} {current : Slot}
  {events : List Event} {event : Event} {result : CollectorEnd ε}

/-! ## Starting -/

/-- **Settings that can be worked with let the sources start.** -/
theorem startFault?_eq_none {settings : Settings} (h : settings.fault? = none) :
    startFault? ε settings.sources
      (settings.isEnabled .getHeader && settings.beaconUrl.isSome) = none := by
  -- what keeps the sources from starting is among what is wrong with the settings
  refine if_neg fun hfault => ?_
  have hurl : (settings.isEnabled .getHeader && settings.beaconUrl.isNone) = true := by
    unfold Settings.isEnabled at hfault ⊢
    cases hb : settings.beaconUrl <;> simp_all
  unfold Settings.fault? at h
  rw [if_pos hurl] at h
  split at h
  · exact absurd h (by simp)
  · split at h <;> exact absurd h (by simp)

/-! ## The steps that end a collector -/

/-- How a collector ends by a flush. -/
def endOfFlush : Except ε Unit → CollectorEnd ε
  | .ok () => .ok ()
  | .error cause => .error (.failed (.recorder (.sink cause)))

/-- How a collector ends by a batch that is not processed. -/
def endOfBatch : Halt (RecorderFault ε) → CollectorEnd ε
  | .failed cause => .error (.failed (.batch cause))
  | .crashed => .error .crashed

/-- How a step can end a collector: by the flush, or by a batch that is not processed. -/
inductive Ends (sink : Sink σ ε) (c : Collector σ ε) : List Act → Collector σ ε → Prop
  | flush (result : Except ε Unit) {acts : List Act} {state : σ} (hs : c.stage = .flushing)
      (ha : handed acts = []) (hf : sink.flush c.recorder.sink = (result, state)) :
      Ends sink c acts
        { c with
          recorder := { c.recorder with sink := state }
          stage := .stopped (endOfFlush result) }
  | batch (halt : Halt (RecorderFault ε)) {acts : List Act} {source : Source} {batch : Batch}
      {inbox : Inbox} {recorder : Recorder σ}
      (ha : handed acts = [(source, batch)])
      (hp : c.recorder.process sink batch = (.error halt, recorder)) :
      Ends sink c acts
        { c with
          inbox := inbox
          recorder := recorder
          stage := .stopped (endOfBatch halt) }

theorem Fetches.isOpen {batch : Batch} {inbox : Inbox} {notices : List Act} {next : Stage ε}
    {recorder : Recorder σ} (h : Fetches c source batch inbox notices next) :
    { c with inbox := inbox, recorder := recorder, stage := next }.isOpen = true := by
  cases h with
  | gathering => rfl
  | draining => rfl

/-- Housekeeping ends no collector whose recorder is not locked. -/
theorem isOpen_of_housekeeping (sink : Sink σ ε) (hs : c.stage = .gathering)
    (hc : c.isCancelled = false) (hi : c.inbox.pullFirst? drainOrder = none)
    (hd : c.isHousekeepingDue = true) (hl : c.recorder.locked = false)
    (hk : (current.earlier? slotsKept).isSome) :
    (c.step sink current).2.isOpen = true := by
  have hstep : c.step sink current = housekeep current c := by
    rw [step, hs]
    dsimp only
    unfold gather
    rw [hc, hi, hd]
    rfl
  obtain ⟨recorder, hkept, hl', _⟩ := Recorder.housekeep_ok (ε := ε) hl hk
  rw [hstep]
  unfold housekeep
  rw [hkept]
  dsimp only
  split
  · exact absurd ‹_› (Recorder.stats_ne_error hl' _)
  · unfold isOpen
    rw [hs]

/-- **A step ends a collector by the flush or by a batch that is not processed**, if its recorder is
not locked and the slots from which on bids are kept can be told. -/
theorem ends_of_step (hl : c.recorder.locked = false) (hk : (current.earlier? slotsKept).isSome)
    (ho : c.isOpen = true) (hn : ¬ (c.step sink current).2.isOpen = true) :
    Ends sink c (c.step sink current).1 (c.step sink current).2 := by
  have hturn := turn_step sink current c
  generalize hstep : c.step sink current = next at hturn hn ⊢
  obtain ⟨acts, c'⟩ := next
  dsimp only at hturn hn ⊢
  cases hturn with
  | idle | awaiting | halted | housekept => exact absurd ho hn
  | cancelled | passed | wound => exact absurd rfl hn
  | drained =>
      rename_i isLast _ _
      cases isLast <;> exact absurd rfl hn
  | processed hf => exact absurd hf.isOpen hn
  | failed hf hp => exact .batch (.failed _) hf.handed_notices hp
  | crashed hf hp => exact .batch .crashed rfl hp
  | unkept hs hc hi hd =>
      have hopen := isOpen_of_housekeeping sink hs hc hi hd hl hk
      rw [hstep] at hopen
      exact absurd hopen hn
  | finished hs hp =>
      unfold Recorder.shutdown at hp
      split at hp
      · rename_i hf
        rw [← (Prod.mk.inj hp).2]
        exact .flush (.ok ()) hs rfl hf
      · exact absurd (Prod.mk.inj hp).1 (by simp)
  | unfinished hs hp hc =>
      unfold Recorder.shutdown at hp
      split at hp
      · -- the figures can be told, so it is the flush that failed
        obtain ⟨rfl, rfl⟩ := Prod.mk.inj hp
        obtain hc | hc := hc
        · exact absurd hc (by simp)
        · exact absurd hc (Recorder.stats_ne_error hl _)
      · rename_i cause _ hf
        obtain ⟨rfl, rfl⟩ := Prod.mk.inj hp
        obtain hc | hc := hc
        · obtain rfl := Except.error.inj hc
          exact .flush (.error cause) hs rfl hf
        · exact absurd hc (Recorder.stats_ne_error hl _)

/-! ## Cancellation -/

/-- Steps leave it to others to cancel. -/
theorem Turn.isCancelled (h : Turn sink current c acts c') : c'.isCancelled = c.isCancelled := by
  cases h <;> rfl

/-- A collector that is cancelled has been told so. -/
theorem cancel_mem_of_isCancelled (sink : Sink σ ε) (hc : c.isCancelled = false)
    (h : (run sink c events).2.isCancelled = true) : .cancel ∈ events := by
  obtain ⟨before, event, after, rfl, hb, hcross⟩ :=
    exists_crossing (fun c => c.isCancelled = false) hc (by rw [h]; decide)
  cases event with
  | cancel => exact List.mem_append_right _ List.mem_cons_self
  | send source batch =>
      refine absurd ?_ hcross
      unfold take
      dsimp only
      split <;> exact hb
  | housekeepingDue | sourcesStopped | sourcesLate => exact absurd hb hcross
  | step current => exact absurd ((turn_step sink current _).isCancelled.trans hb) hcross

/-- A collector goes on from gathering when it is cancelled, or it fails. -/
theorem Turn.leaves_gathering (h : Turn sink current c acts c') (hs : c.stage = .gathering)
    (hn : ¬ c'.stage = .gathering) :
    c.isCancelled = true ∨ ∃ halt, c'.stage = .stopped (.error halt) := by
  cases h with
  | idle | awaiting | halted | housekept => exact absurd hs hn
  | cancelled _ hc => exact Or.inl hc
  | failed | crashed | unkept | unfinished => exact Or.inr ⟨_, rfl⟩
  | processed hf =>
      cases hf with
      | gathering => exact absurd rfl hn
      | draining hs' => exact absurd (hs.symm.trans hs') (by simp)
  | passed hs' | drained hs' | wound hs' | finished hs' =>
      exact absurd (hs.symm.trans hs') (by simp)

/-- **A collector that is open and past gathering has been cancelled.** -/
theorem cancel_mem_of_stage (hs : c.stage = .gathering) (hc : c.isCancelled = false)
    (ho : (run sink c events).2.isOpen = true) (h : (run sink c events).2.stage ≠ .gathering) :
    .cancel ∈ events := by
  obtain ⟨before, event, after, rfl, hb, hcross⟩ :=
    exists_crossing (fun c => c.stage = .gathering) hs h
  refine List.mem_append_left _ (cancel_mem_of_isCancelled sink hc ?_)
  rcases take_cases sink (run sink c before).2 event with ⟨current, rfl⟩ | ⟨_, hstage, _⟩
  · rcases (turn_step sink current (run sink c before).2).leaves_gathering hb hcross with
      hcancelled | ⟨halt, hh⟩
    · exact hcancelled
    · -- what has failed is not open later
      rw [run_append, run] at ho
      have hstill := isOpen_of_run ho
      have hfailed := isOpen_eq_false_iff.mpr ⟨_, hh⟩
      exact Bool.noConfusion (hstill.symm.trans hfailed)
  · exact absurd (hstage.trans hb) hcross

/-! ## The sink -/

/-- A collector that begins while batches wait for it, over a sink that nothing was asked of. -/
def beginning (s : σ) (inbox : Inbox) : Collector (σ × List (Sink.Entry ε)) ε :=
  { fresh (s, []) with inbox := inbox }

/-- **As long as a collector is open its sink has taken all that it was asked for**, and its
recorder can be used. -/
theorem exists_rows_of_isOpen {s : σ} {inbox : Inbox}
    (ho : (run sink.logged (beginning s inbox) events).2.isOpen = true) :
    (run sink.logged (beginning s inbox) events).2.recorder.locked = false
      ∧ ∃ rows : List Row, (run sink.logged (beginning s inbox) events).2.recorder.sink.2
          = rows.map (Sink.Entry.write · .written) := by
  obtain ⟨calls, hserve, _⟩ := served ho
  rw [Recorder.serve_eq_undergo Mirrors.init rfl] at hserve
  obtain ⟨_, hl, htakes⟩ := Recorder.undergo_ok Mirrors.init hserve
  exact ⟨hl, _, Sink.log_of_takes htakes⟩

/-- A channel that nobody takes from any more stays as it is. -/
theorem inbox_of_stopped (h : c.stage = .stopped result) (events : List Event) :
    (run sink c events).2.inbox = c.inbox := by
  induction events generalizing c with
  | nil => rfl
  | cons event rest ih =>
      have hclosed : c.isOpen = false := isOpen_eq_false_iff.mpr ⟨result, h⟩
      have hone : (c.take sink event).2.stage = .stopped result
          ∧ (c.take sink event).2.inbox = c.inbox := by
        cases event with
        | send source batch =>
            unfold take
            rw [hclosed]
            exact ⟨h, rfl⟩
        | housekeepingDue | cancel | sourcesStopped | sourcesLate => exact ⟨h, rfl⟩
        | step current =>
            unfold take step
            rw [h]
            exact ⟨h, rfl⟩
      exact (ih hone.1).trans hone.2

/-- Behind the event that ends it a collector stays as it is. -/
theorem run_of_end (before : List Event) (event : Event) (after : List Event)
    (h : ((run sink c before).2.take sink event).2.stage = .stopped result) :
    (run sink c (before ++ event :: after)).1
        = (run sink c before).1 ++ ((run sink c before).2.take sink event).1
      ∧ (run sink c (before ++ event :: after)).2.stage = .stopped result
      ∧ (run sink c (before ++ event :: after)).2.recorder
        = ((run sink c before).2.take sink event).2.recorder
      ∧ (run sink c (before ++ event :: after)).2.inbox
        = ((run sink c before).2.take sink event).2.inbox := by
  obtain ⟨hnone, hstage, hrecorder⟩ := run_of_stopped sink h after
  rw [run_append, run]
  dsimp only
  exact ⟨by rw [hnone, List.append_nil], hstage, hrecorder, inbox_of_stopped h after⟩

/-- **What the last step asks of the sink**: to flush, or to write rows up to one that fails. -/
theorem Ends.log {c c' : Collector (σ × List (Sink.Entry ε)) ε} (h : Ends sink.logged c acts c')
    (hsink : sink.NeverCrashes) (hl : c.recorder.locked = false) :
    (∃ result, c.stage = .flushing
        ∧ c'.recorder.sink.2 = c.recorder.sink.2 ++ [.flush result]
        ∧ c'.stage = .stopped (endOfFlush result))
      ∨ ∃ source batch row cause, ∃ rows : List Row, handed acts = [(source, batch)]
        ∧ row.bid ∈ batch
        ∧ c'.recorder.sink.2 = c.recorder.sink.2 ++ rows.map (Sink.Entry.write · .written)
            ++ [.write row (.failed cause)]
        ∧ c'.stage = .stopped (.error (.failed (.batch (.sink cause)))) := by
  cases h with
  | flush result hs _ hf => exact Or.inl ⟨_, hs, Sink.log_of_flush hf, rfl⟩
  | batch halt ha hp =>
      obtain ⟨before, bid, behind, done, row, later, m, rfl, hrows, ht, hrefused, _⟩ :=
        Recorder.process_error hl hp
      have hbid : row.bid = bid := by
        refine Ledger.bid_of_mem_rowsFor (l := c.recorder.ledger.takenAll before) ?_
        rw [hrows]
        exact List.mem_append_right _ List.mem_cons_self
      rcases hrefused with ⟨cause, hw, rfl⟩ | ⟨hw, _⟩
      · refine Or.inr ⟨_, _, row, cause, c.recorder.ledger.rowsForAll before ++ done, ha, ?_, ?_,
          rfl⟩
        · rw [hbid]
          exact List.mem_append_right _ List.mem_cons_self
        · rw [Sink.log_of_write hw, Sink.log_of_takes ht]
      · exact absurd (Prod.mk.inj hw).1 (hsink row m.1)

/-! ## Runs -/

/-- What was asked of the sink of a collector in a run. -/
def asked (sink : Sink σ ε) (s : σ) (inbox : Inbox) (events : List Event) :
    List (Sink.Entry ε) :=
  (run sink.logged (beginning s inbox) events).2.recorder.sink.2

/--
**Collectors are fail-stop.**

Settings that can be worked with let the sources start. From then on, whatever waits in the channels
and whatever happens in whatever order, if the sink never crashes and the steps are taken at moments
of a clock: while the collector is open, all that was asked of its sink are writes that succeeded.
It ends by a flush, once it was told to cancel, and in the way the flush did; or by a write that
failed, and then with an error, without a flush, and with all that waited in the channels still
there but the batch of that write. Behind either nothing more is asked of the sink.
-/
theorem log_of_run (hsink : sink.NeverCrashes) (s : σ) (inbox : Inbox) (events : List Event)
    (hclock : ∀ current, .step current ∈ events →
      ∃ now : Time.Instant, Slot.atInstant? now = some current) :
    (∀ settings : Settings, settings.fault? = none →
        startFault? ε settings.sources
          (settings.isEnabled .getHeader && settings.beaconUrl.isSome) = none)
      ∧ ∃ rows : List Row,
        ((run sink.logged (beginning s inbox) events).2.isOpen = true
          ∧ asked sink s inbox events
            = rows.map (Sink.Entry.write · .written))
        ∨ (∃ before current after result, events = before ++ .step current :: after
          ∧ .cancel ∈ before
          ∧ asked sink s inbox before
            = rows.map (Sink.Entry.write · .written)
          ∧ asked sink s inbox events
            = rows.map (Sink.Entry.write · .written) ++ [.flush result]
          ∧ (run sink.logged (beginning s inbox) events).2.stage = .stopped (endOfFlush result))
        ∨ ∃ before current after source batch row cause,
          events = before ++ .step current :: after
          ∧ (run sink.logged (beginning s inbox) before).2.isOpen = true
          ∧ row.bid ∈ batch
          ∧ asked sink s inbox events
            = rows.map (Sink.Entry.write · .written) ++ [.write row (.failed cause)]
          ∧ (run sink.logged (beginning s inbox) events).2.stage
            = .stopped (.error (.failed (.batch (.sink cause))))
          ∧ handed (run sink.logged (beginning s inbox) events).1
            = handed (run sink.logged (beginning s inbox) before).1 ++ [(source, batch)]
          ∧ ∀ channel, (run sink.logged (beginning s inbox) before).2.inbox.waiting channel
            = (if source = channel then [batch] else [])
              ++ (run sink.logged (beginning s inbox) events).2.inbox.waiting channel := by
  refine ⟨fun settings => startFault?_eq_none, ?_⟩
  by_cases ho : (run sink.logged (beginning s inbox) events).2.isOpen = true
  · obtain ⟨_, rows, hrows⟩ := exists_rows_of_isOpen ho
    exact ⟨rows, Or.inl ⟨ho, hrows⟩⟩
  · -- at some event the collector ends, and only a step can do that
    obtain ⟨before, event, after, rfl, hb, hcross⟩ :=
      exists_crossing (fun c => c.isOpen = true) rfl ho
    obtain ⟨hl, rows, hrows⟩ := exists_rows_of_isOpen hb
    rcases take_cases sink.logged (run sink.logged (beginning s inbox) before).2 event with
      ⟨current, rfl⟩ | ⟨_, hstage, _⟩
    · obtain ⟨now, hnow⟩ := hclock current (List.mem_append_right _ List.mem_cons_self)
      have hends := ends_of_step hl (Slot.isSome_earlier?_of_atInstant? hnow) hb hcross
      rcases hends.log hsink hl with
        ⟨result, hs, hlog, hstage⟩ | ⟨source, batch, row, cause, more, ha, hbid, hlog, hstage⟩
      · obtain ⟨_, hstage', hrecorder, _⟩ := run_of_end before (.step current) after hstage
        refine ⟨rows, Or.inr (Or.inl ⟨before, current, after, result, rfl, ?_, hrows, ?_, hstage'⟩)⟩
        · exact cancel_mem_of_stage rfl rfl hb (by rw [hs]; simp)
        · unfold asked
          rw [hrecorder, ← hrows]
          exact hlog
      · obtain ⟨hacts, hstage', hrecorder, hinbox⟩ :=
          run_of_end before (.step current) after hstage
        refine ⟨rows ++ more, Or.inr (Or.inr ⟨before, current, after, source, batch, row, cause,
          rfl, hb, hbid, ?_, hstage', ?_, fun channel => ?_⟩)⟩
        · unfold asked
          rw [hrecorder, List.map_append, ← hrows]
          exact hlog
        · rw [hacts, handed_append]
          exact congrArg _ ha
        · rw [hinbox, ← handedFrom_take, ← handedFrom_of_handed (b := [.take source batch]) ha]
          exact (turn_step sink.logged current _).waiting channel
    · unfold isOpen at hb hcross
      rw [hstage] at hcross
      exact absurd hb hcross

/-- Two batches, the first of which comes to four rows. -/
def crowdedEvents : List Event :=
  [.send .getHeader [Bid.plain ⟨7⟩ 12], .send .dataApi Recorder.risingPair, .step ⟨9⟩, .step ⟨9⟩,
    .cancel]

/-- A sink with room for three rows ends the collector in its first batch. The other batch waits for
good, and there is no flush for the cancellation that comes too late. -/
theorem log_of_crowded_run :
    (Recorder.roomFor 3 (.failed ())).NeverCrashes
      ∧ (∀ current, .step current ∈ crowdedEvents →
        ∃ now : Time.Instant, Slot.atInstant? now = some current)
      ∧ ∃ rows : List Row, ∃ row,
        asked (Recorder.roomFor 3 (.failed ())) [] .empty crowdedEvents
            = rows.map (Sink.Entry.write · .written) ++ [.write row (.failed ())]
          ∧ row.bid ∈ Recorder.risingPair
          ∧ (run (Recorder.roomFor 3 (.failed ())).logged (beginning [] .empty)
              crowdedEvents).2.inbox.waiting .getHeader = [[Bid.plain ⟨7⟩ 12]] := by
  have hsink : (Recorder.roomFor 3 (.failed ())).NeverCrashes := by
    intro row rows
    unfold Recorder.roomFor
    dsimp only
    split <;> simp
  have hclock : ∀ current, .step current ∈ crowdedEvents →
      ∃ now : Time.Instant, Slot.atInstant? now = some current := by
    intro current hstep
    obtain rfl : current = ⟨9⟩ := by simpa [crowdedEvents] using hstep
    exact ⟨⟨1606824131, 0, by decide, by decide, by decide⟩, by decide +kernel⟩
  have hended : (run (Recorder.roomFor 3 (.failed ())).logged (beginning [] .empty)
      crowdedEvents).2.isOpen = false := by rfl
  obtain ⟨_, rows, h⟩ := log_of_run hsink [] .empty crowdedEvents hclock
  rcases h with ⟨ho, _⟩ | ⟨_, _, _, _, _, _, _, hlog, _⟩
    | ⟨_, _, _, _, _, row, _, _, _, hbid, hlog, _, hhanded, _⟩
  · exact Bool.noConfusion (ho.symm.trans hended)
  · -- the last that was asked of the sink was to write
    have hlast : (asked (Recorder.roomFor 3 (.failed ())) [] .empty crowdedEvents).getLast?
        = some (.write ⟨.top, Bid.plain ⟨7⟩ 9⟩ (.failed ())) := by rfl
    rw [hlog, List.getLast?_concat] at hlast
    exact absurd hlast (by simp)
  · have htaken : handed (run (Recorder.roomFor 3 (.failed ())).logged (beginning [] .empty)
        crowdedEvents).1 = [(.dataApi, Recorder.risingPair)] := by rfl
    rw [htaken] at hhanded
    have hpair := congrArg List.getLast? hhanded
    rw [List.getLast?_concat] at hpair
    obtain ⟨-, rfl⟩ := Prod.mk.inj (Option.some.inj hpair)
    exact ⟨hsink, hclock, rows, row, hlog, hbid, rfl⟩

end Collector

end BidArchive
