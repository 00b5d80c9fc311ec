import BidArchive.Proofs.Bid.Arrival
import BidArchive.Proofs.Collector.Backlog

/-!
# Cancellation at any moment

A collector that is cancelled goes through its channels, waits for the sources and goes through
the channels again. Every step of it takes a batch or comes nearer to the end
(`Turn.ahead_lt`), so it ends after so many steps. What it ends with does not depend on when it was
cancelled, as every run of it comes to what processing its backlog comes to.
-/

namespace BidArchive

open Chain (Slot)

variable {σ ε : Type} {sink : Sink σ ε}

/-- How many steps it takes from a stage to the end, those that hand over a batch not counted. -/
def Stage.ahead : Stage ε → Nat
  | .gathering => 11
  | .draining isLast left _ => left.length + if isLast then 2 else 7
  | .winding => 6
  | .flushing => 1
  | .stopped _ => 0

/-- The collector gets to take a step. -/
def Event.isStep : Event → Bool
  | .step _ => true
  | _ => false

/-- The sources are done, or take too long. -/
def Event.endsSources : Event → Bool
  | .sourcesStopped _ => true
  | .sourcesLate => true
  | _ => false

namespace Collector

variable {c c' : Collector σ ε} {source : Source} {batch : Batch} {acts : List Act}
  {current : Slot} {event : Event} {events : List Event}

/-! ## Steps to the end -/

theorem ahead_pos (ho : c.isOpen = true) : 0 < c.stage.ahead := by
  cases hs : c.stage with
  | stopped result => exact absurd hs (stage_ne_stopped ho)
  | draining isLast left count =>
      unfold Stage.ahead
      dsimp only
      split <;> omega
  | gathering | winding | flushing => simp [Stage.ahead]

theorem ahead_le (hw : c.stage.Swept c.inbox) : c.stage.ahead ≤ 11 := by
  cases hs : c.stage with
  | draining isLast left count =>
      rw [hs] at hw
      obtain ⟨passed, horder, -⟩ := hw
      have hthree : 3 = passed.length + left.length := by
        have hlength := congrArg List.length horder
        rwa [List.length_append] at hlength
      unfold Stage.ahead
      dsimp only
      split <;> omega
  | gathering | winding | flushing | stopped => simp [Stage.ahead]

/-- **A step that hands over no batch comes nearer to the end**, if the collector is cancelled and
its sources are done. -/
theorem Turn.ahead_lt (h : Turn sink current c acts c') (hc : c.isCancelled = true)
    (hr : c.sources ≠ .running) (ho : c.isOpen = true) :
    c'.stage.ahead < c.stage.ahead + (handed acts).length := by
  cases h with
  | idle _ hc' | housekept _ hc' | unkept _ hc' => exact absurd (hc.symm.trans hc') (by simp)
  | awaiting _ hr' => exact absurd hr' hr
  | halted hs => exact absurd hs (stage_ne_stopped ho)
  | failed | crashed | finished | unfinished => exact Nat.lt_add_right _ (ahead_pos ho)
  | processed hf hp =>
      cases hf with
      | gathering _ hc' => exact absurd (hc.symm.trans hc') (by simp)
      | draining hs =>
          rw [hs]
          exact Nat.lt_succ_self _
  | cancelled hs =>
      rw [hs]
      show 3 + 7 < 11
      omega
  | passed hs hp =>
      rename_i isLast empty rest count
      rw [hs]
      show rest.length + (if isLast then 2 else 7) < rest.length + 1 + (if isLast then 2 else 7) + 0
      omega
  | drained hs =>
      rename_i isLast count
      rw [hs]
      cases isLast
      · show 6 < 0 + 7 + 0
        omega
      · show 1 < 0 + 2 + 0
        omega
  | wound hs hr hn =>
      rw [hs, handed_of_sources hn]
      show 3 + 2 < 6 + 0
      omega

/-- A collector that is cancelled stays so. -/
theorem isCancelled_take (hc : c.isCancelled = true) (event : Event) :
    (c.take sink event).2.isCancelled = true := by
  cases event with
  | step current => exact (turn_step sink current c).isCancelled.trans hc
  | send source batch =>
      unfold take
      dsimp only
      split <;> exact hc
  | cancel => rfl
  | housekeepingDue | sourcesStopped | sourcesLate => exact hc

/-- Sources that are done do not start again. -/
theorem sources_take (hr : c.sources ≠ .running) (event : Event) :
    (c.take sink event).2.sources ≠ .running := by
  cases event with
  | step current =>
      have hturn := turn_step sink current c
      show (c.step sink current).2.sources ≠ .running
      generalize c.step sink current = next at hturn
      obtain ⟨acts, c'⟩ := next
      cases hturn <;> exact hr
  | send source batch =>
      unfold take
      dsimp only
      split <;> exact hr
  | housekeepingDue | cancel => exact hr
  | sourcesStopped | sourcesLate => exact Sources.noConfusion

/-- **Enough steps bring a collector to its end** that is cancelled and whose sources are done. -/
theorem isOpen_of_steps (sink : Sink σ ε) (hq : ∀ event ∈ events, event.isSend = false)
    (hw : c.stage.Swept c.inbox) (hc : c.isCancelled = true) (hr : c.sources ≠ .running)
    (hsteps : c.inbox.backlog.length + c.stage.ahead ≤ events.countP Event.isStep) :
    (run sink c events).2.isOpen = false := by
  induction events generalizing c with
  | nil =>
      by_contra ho
      have hpos : 0 < c.stage.ahead := ahead_pos (eq_true_of_ne_false ho)
      rw [List.countP_nil] at hsteps
      omega
  | cons event rest ih =>
      by_cases ho : c.isOpen = true
      · obtain ⟨hevent, hrest⟩ := List.forall_mem_cons.mp hq
        obtain ⟨hbacklog, hw'⟩ := sweeps_take sink hevent hw
        refine ih hrest hw' (isCancelled_take hc event) (sources_take hr event) ?_
        rw [List.countP_cons] at hsteps
        cases event with
        | step current =>
            have hnearer : (c.take sink (.step current)).2.stage.ahead
                < c.stage.ahead + (handed (c.take sink (.step current)).1).length :=
              (turn_step sink current c).ahead_lt hc hr ho
            have hlength := congrArg List.length hbacklog
            rw [List.length_append] at hlength
            simp only [Event.isStep, if_true] at hsteps
            show (c.take sink (.step current)).2.inbox.backlog.length
              + (c.take sink (.step current)).2.stage.ahead ≤ rest.countP Event.isStep
            omega
        | send => exact absurd hevent (by simp [Event.isSend])
        | housekeepingDue | cancel | sourcesStopped | sourcesLate => exact hsteps
      · obtain ⟨result, hs⟩ := isOpen_eq_false_iff.mp (Bool.eq_false_iff.mpr ho)
        obtain ⟨-, hstage, -⟩ := run_of_stopped sink hs (event :: rest)
        exact isOpen_eq_false_iff.mpr ⟨result, hstage⟩

/-- What an event cannot undo holds at the end of a run. -/
theorem run_keeps (p : Collector σ ε → Prop)
    (hp : ∀ (c : Collector σ ε) event, p c → p (c.take sink event).2) (h : p c) :
    p (run sink c events).2 := by
  by_contra hn
  obtain ⟨before, event, after, -, hb, hcross⟩ := exists_crossing p h hn
  exact hcross (hp _ event hb)

theorem isCancelled_of_mem (h : .cancel ∈ events) : (run sink c events).2.isCancelled = true := by
  obtain ⟨before, after, rfl⟩ := List.append_of_mem h
  rw [run_append, run]
  exact run_keeps (·.isCancelled = true) (fun _ event hc => isCancelled_take hc event) rfl

theorem sources_of_mem (h : event ∈ events) (he : event.endsSources = true) :
    (run sink c events).2.sources ≠ .running := by
  obtain ⟨before, after, rfl⟩ := List.append_of_mem h
  rw [run_append, run]
  refine run_keeps (·.sources ≠ .running) (fun _ event hr => sources_take hr event) ?_
  cases event with
  | sourcesStopped | sourcesLate => exact Sources.noConfusion
  | send | housekeepingDue | cancel | step => exact absurd he (by simp [Event.endsSources])

/-- The collector is cancelled and its sources are done, in whatever order, and behind both it gets
to take so many steps. -/
def Concludes (steps : Nat) (events : List Event) : Prop :=
  ∃ before after, events = before ++ after ∧ .cancel ∈ before
    ∧ (∃ event ∈ before, event.endsSources = true) ∧ steps ≤ after.countP Event.isStep

theorem isOpen_of_concludes (sink : Sink σ ε) (hq : ∀ event ∈ events, event.isSend = false)
    (hw : c.stage.Swept c.inbox) (h : Concludes (c.inbox.backlog.length + 11) events) :
    (run sink c events).2.isOpen = false := by
  obtain ⟨before, after, rfl, hcancel, ⟨event, hevent, hends⟩, hsteps⟩ := h
  obtain ⟨hbefore, hafter⟩ := List.forall_mem_append.mp hq
  obtain ⟨hbacklog, hw'⟩ := sweeps_run sink hbefore hw
  have hlength := congrArg List.length hbacklog
  rw [List.length_append] at hlength
  have hahead := ahead_le hw'
  rw [run_append]
  refine isOpen_of_steps sink hafter hw' (isCancelled_of_mem hcancel)
    (sources_of_mem hevent hends) ?_
  omega

/-! ## Cancellation behind any number of batches -/

/-- **A step of a collector that gathers takes one batch**, as long as there is one and the batches
before could be processed. -/
theorem handed_of_steps (sink : Sink σ ε) (current : Slot) (hs : c.stage = .gathering)
    (hc : c.isCancelled = false) (k : Nat) :
    handed (run sink c (List.replicate k (.step current))).1
      = (outputOf sink c.recorder c.inbox.backlog).taken.take k := by
  induction k generalizing c with
  | zero => rfl
  | succ k ih =>
      have hw : c.stage.Swept c.inbox := by
        rw [hs]
        trivial
      by_cases hnone : c.inbox.backlog = []
      · have hquiet : ∀ event ∈ List.replicate (k + 1) (Event.step current),
            event.isSend = false := by
          intro event hmem
          rw [List.eq_of_mem_replicate hmem]
          rfl
        have hall := (sweeps_run sink hquiet hw).1
        rw [hnone] at hall ⊢
        rw [(List.append_eq_nil_iff.mp hall.symm).1]
        rfl
      · rw [List.replicate_succ, run]
        dsimp only
        rw [handed_append]
        have hturn := turn_step sink current c
        show handed (c.step sink current).1
          ++ handed (run sink (c.step sink current).2 (List.replicate k (.step current))).1 = _
        generalize c.step sink current = next at hturn
        obtain ⟨acts, c'⟩ := next
        dsimp only at hturn ⊢
        cases hturn with
        | idle _ _ hp | housekept _ _ hp | unkept _ _ hp =>
            exact absurd (Inbox.backlog_eq_nil_of_pullFirst? hp) hnone
        | cancelled _ hc' => exact absurd (hc.symm.trans hc') (by simp)
        | awaiting hs' | halted hs' | passed hs' | drained hs' | wound hs' | finished hs'
        | unfinished hs' => exact absurd (hs.symm.trans hs') (by simp)
        | processed hf hp =>
            rw [(hf.backlog hw).1, outputOf_of_ok hp]
            cases hf with
            | gathering => exact congrArg (_ :: ·) (ih rfl hc)
            | draining hs' => exact absurd (hs.symm.trans hs') (by simp)
        | failed hf hp =>
            rw [(hf.backlog hw).1, outputOf_of_error hp, hf.handed_notices,
              (run_of_stopped sink rfl _).1]
            exact (List.take_of_length_le (Nat.le_add_left 1 k)).symm
        | crashed hf hp =>
            rw [(hf.backlog hw).1, outputOf_of_error hp, (run_of_stopped sink rfl _).1]
            exact (List.take_of_length_le (Nat.le_add_left 1 k)).symm

/-! ## Sinks that take every row -/

/-- Batches that can all be processed are all handed over. -/
theorem outputOf_of_serve {r r' : Recorder σ} {batches : List (Source × Batch)}
    (h : Recorder.serve sink r (batches.map fun entry => .process entry.2) = (.ok (), r')) :
    outputOf sink r batches = (outputOf sink r' []).behind batches := by
  induction batches generalizing r with
  | nil =>
      obtain rfl := (Prod.mk.inj h).2
      exact (Output.behind_nil _).symm
  | cons entry rest ih =>
      obtain ⟨source, batch⟩ := entry
      rw [List.map_cons, Recorder.serve] at h
      split at h
      · rename_i r₁ h₁
        have hp : r.process sink batch = (.ok (), r₁) := h₁
        rw [outputOf_of_ok hp, ih h]
        rfl
      · exact absurd (Prod.mk.inj h).1 (by simp)

/-- **Over a sink that takes every row all batches are handed over**, and their bids are written
and counted as they arrive one after the other. -/
theorem plainOutput_of_steady (hs : sink.Steady) (s : σ) (inbox : Inbox) :
    ∃ state, plainOutput sink s inbox =
      { taken := inbox.backlog
        result := endOfFlush (sink.flush state).1
        sink := ((sink.flush state).2,
          (History.rows (History.arriving inbox.bids)).map (Sink.Entry.write · .written)
            ++ [.flush (sink.flush state).1])
        received := inbox.bids.length
        unique := (History.rows (History.arriving inbox.bids)).countP fun row => row.kind = .all
        topped := (History.rows (History.arriving inbox.bids)).countP fun row =>
          row.kind = .top } := by
  obtain ⟨r, hmoment, hserve⟩ :=
    Recorder.exists_end hs.logged (Recorder.fits_process (inbox.backlog.map (·.2))) (s, [])
  rw [Recorder.happenings_process] at hmoment
  obtain ⟨hm, -, htakes⟩ := hmoment.facts
  have hlog : r.sink.2
      = (History.rows (History.arriving inbox.bids)).map (Sink.Entry.write · .written) :=
    Sink.log_of_takes htakes
  have hreceived : r.ledger.received = inbox.bids.length := by
    rw [hm.received, History.arrivals_arriving]
    rfl
  have hunique : r.ledger.unique
      = (History.rows (History.arriving inbox.bids)).countP fun row => row.kind = .all := hm.unique
  have htopped : r.ledger.topped
      = (History.rows (History.arriving inbox.bids)).countP fun row => row.kind = .top := hm.topped
  refine ⟨r.sink.1, ?_⟩
  rw [List.map_map] at hserve
  unfold plainOutput
  rw [outputOf_of_serve hserve, ← hlog, ← hreceived, ← hunique, ← htopped]
  unfold Output.behind
  rw [show (outputOf sink.logged r []).taken = [] from rfl, List.append_nil]
  rfl

/-! ## The report -/

theorem Turn.report (h : Turn sink current c acts c') (ho : c.isOpen = true)
    (hend : c'.stage = .stopped (.ok ())) :
    ∃ slots, .notice (.collectorStopped ⟨c'.recorder.ledger.received, c'.recorder.ledger.unique,
      c'.recorder.ledger.topped, slots⟩) ∈ acts := by
  -- all other steps end the collector with an error or not at all
  have hopen : ¬ c'.isOpen = true := fun h => stage_ne_stopped h hend
  cases h with
  | idle | awaiting | halted | housekept => exact absurd ho hopen
  | cancelled | passed | wound => exact absurd rfl hopen
  | drained hs =>
      rename_i isLast count
      cases isLast <;> exact absurd rfl hopen
  | processed hf => exact absurd hf.isOpen hopen
  | failed | crashed | unkept | unfinished => exact absurd (Stage.stopped.inj hend) (by simp)
  | finished hs hp ht =>
      unfold Recorder.stats at ht
      split at ht
      · exact absurd ht (by simp)
      · obtain rfl := Except.ok.inj ht
        exact ⟨_, List.mem_cons_of_mem _ List.mem_cons_self⟩

/-- **A collector that ends well reports its figures.** -/
theorem exists_report (ho : c.isOpen = true)
    (hend : (run sink c events).2.stage = .stopped (.ok ())) :
    ∃ slots, .notice (.collectorStopped ⟨(run sink c events).2.recorder.ledger.received,
      (run sink c events).2.recorder.ledger.unique,
      (run sink c events).2.recorder.ledger.topped, slots⟩) ∈ (run sink c events).1 := by
  obtain ⟨before, current, after, rfl, hb, hlast⟩ :=
    exists_last_step ho fun h => stage_ne_stopped h hend
  obtain ⟨result, hs⟩ := isOpen_eq_false_iff.mp (Bool.eq_false_iff.mpr hlast)
  obtain ⟨hacts, hstage, hrecorder, -⟩ := run_of_end before (.step current) after hs
  obtain rfl : result = .ok () := Stage.stopped.inj (hstage.symm.trans hend)
  obtain ⟨slots, hmem⟩ := (turn_step sink current (run sink c before).2).report hb hs
  rw [hacts, hrecorder]
  exact ⟨slots, List.mem_append_right _ hmem⟩

/-! ## All moments of cancellation -/

/--
**The moment of cancellation does not change the output.**

Let batches wait in the channels of a collector that begins, and let nothing be sent any more.
Whenever it is cancelled, whatever else happens in whatever order, and however its sink fares: the
batches that it hands over are the first of those that are handed over when the backlog is
processed without a collector, channel by channel. If its run ends, it ends as that does, with the
same batches handed over, the same asked of the sink and the same figures, which it reports if it
ends well. It does end if it is cancelled, its sources are done and it gets to take enough steps
behind. The cancellation may come behind any number of batches, as each of its steps takes one.
How many slots are still remembered at the end may depend on its moment, as housekeeping only runs
where no batch waits.

Over a sink that takes every row all batches are handed over. The rows are then those that the bids
call for in the order of the backlog, and the figures count them.
-/
theorem output_of_cancellations (sink : Sink σ ε) (s : σ) (inbox : Inbox) (h : Quiet events) :
    handed (run sink.logged (beginning s inbox) events).1 <+: (plainOutput sink s inbox).taken
      ∧ (∀ output ∈ output? sink.logged (beginning s inbox) events,
          output = plainOutput sink s inbox
            ∧ (output.result = .ok () → ∃ slots, .notice (.collectorStopped
              ⟨output.received, output.unique, output.topped, slots⟩)
                ∈ (run sink.logged (beginning s inbox) events).1))
      ∧ (Concludes (inbox.backlog.length + 11) events →
          (output? sink.logged (beginning s inbox) events).isSome)
      ∧ (∀ current k,
          handed (run sink.logged (beginning s inbox) (List.replicate k (.step current))).1
            = (plainOutput sink s inbox).taken.take k)
      ∧ (sink.Steady → ∃ state, plainOutput sink s inbox =
          { taken := inbox.backlog
            result := endOfFlush (sink.flush state).1
            sink := ((sink.flush state).2,
              (History.rows (History.arriving inbox.bids)).map (Sink.Entry.write · .written)
                ++ [.flush (sink.flush state).1])
            received := inbox.bids.length
            unique := (History.rows (History.arriving inbox.bids)).countP fun row =>
              row.kind = .all
            topped := (History.rows (History.arriving inbox.bids)).countP fun row =>
              row.kind = .top }) := by
  have hrun := plainOutput_of_run sink s inbox h
  refine ⟨?_, ?_, ?_, fun current k => handed_of_steps sink.logged current rfl rfl k,
    fun hs => plainOutput_of_steady hs s inbox⟩
  · rcases hrun with ⟨-, hopen⟩ | ⟨result, -, hended⟩
    · rw [hopen]
      exact List.prefix_append _ _
    · rw [hended]
      exact List.prefix_rfl
  · intro output houtput
    have hstopped := isSome_output?_iff.mp (Option.isSome_of_mem houtput)
    rcases hrun with ⟨hopen, -⟩ | ⟨result, hstage, hended⟩
    · exact absurd (hopen.symm.trans hstopped) (by simp)
    · unfold output? at houtput
      rw [hstage] at houtput
      obtain rfl := Option.some.inj houtput
      refine ⟨hended.symm, fun hok => ?_⟩
      obtain rfl : result = .ok () := hok
      exact exists_report rfl hstage
  · intro hconcludes
    exact isSome_output?_iff.mpr
      (isOpen_of_concludes sink.logged h.unsent (c := beginning s inbox) trivial hconcludes)

/-- Batches wait in every channel, two of them in the first. -/
def crowdedInbox : Inbox where
  waiting
    | .dataApi => [[Bid.plain ⟨7⟩ 5, Bid.plain ⟨7⟩ 9], [Bid.plain ⟨5⟩ 1]]
    | .getHeader => [[Bid.plain ⟨7⟩ 12]]
    | .ultrasoundStream => [[Bid.plain ⟨7⟩ 9]]

/-- Steps while a slot is in progress. -/
def stepsAt (count : Nat) : List Event := List.replicate count (.step ⟨9⟩)

/-- Cancellation before the first batch, and behind the last one and housekeeping. -/
theorem output_of_early_and_late_cancellation :
    Quiet (.cancel :: .sourcesStopped 0 :: stepsAt 15)
      ∧ Quiet (stepsAt 5 ++ .cancel :: .sourcesLate :: stepsAt 15)
      ∧ ∃ output, output.taken = crowdedInbox.backlog
        ∧ output? (Sink.recording Unit).logged (beginning [] crowdedInbox)
          (.cancel :: .sourcesStopped 0 :: stepsAt 15) = some output
        ∧ output? (Sink.recording Unit).logged (beginning [] crowdedInbox)
          (stepsAt 5 ++ .cancel :: .sourcesLate :: stepsAt 15) = some output := by
  have hnow : ∃ now : Time.Instant, Slot.atInstant? now = some ⟨9⟩ :=
    ⟨⟨1606824131, 0, by decide, by decide, by decide⟩, by decide +kernel⟩
  have hearly : Quiet (.cancel :: .sourcesStopped 0 :: stepsAt 15) := by
    refine ⟨by decide, fun current hstep => ?_⟩
    obtain rfl : current = ⟨9⟩ := by simpa [stepsAt] using hstep
    exact hnow
  have hlate : Quiet (stepsAt 5 ++ .cancel :: .sourcesLate :: stepsAt 15) := by
    refine ⟨by decide, fun current hstep => ?_⟩
    obtain rfl : current = ⟨9⟩ := by simpa [stepsAt] using hstep
    exact hnow
  have hearlyEnds : Concludes (crowdedInbox.backlog.length + 11)
      (.cancel :: .sourcesStopped 0 :: stepsAt 15) :=
    ⟨[.cancel, .sourcesStopped 0], stepsAt 15, rfl, by decide, ⟨.sourcesStopped 0, by decide, rfl⟩,
      by decide⟩
  have hlateEnds : Concludes (crowdedInbox.backlog.length + 11)
      (stepsAt 5 ++ .cancel :: .sourcesLate :: stepsAt 15) :=
    ⟨stepsAt 5 ++ [.cancel, .sourcesLate], stepsAt 15, rfl, by decide,
      ⟨.sourcesLate, by decide, rfl⟩, by decide⟩
  obtain ⟨-, hsame, hends, -, hsteady⟩ :=
    output_of_cancellations (Sink.recording Unit) [] crowdedInbox hearly
  obtain ⟨-, hsame', hends', -, -⟩ :=
    output_of_cancellations (Sink.recording Unit) [] crowdedInbox hlate
  obtain ⟨output, houtput⟩ := Option.isSome_iff_exists.mp (hends hearlyEnds)
  obtain ⟨output', houtput'⟩ := Option.isSome_iff_exists.mp (hends' hlateEnds)
  obtain rfl : output = output' :=
    (hsame output houtput).1.trans (hsame' output' houtput').1.symm
  obtain ⟨state, hall⟩ := hsteady Sink.steady_recording
  refine ⟨hearly, hlate, output, ?_, houtput, houtput'⟩
  rw [(hsame output houtput).1, hall]

end Collector

end BidArchive
