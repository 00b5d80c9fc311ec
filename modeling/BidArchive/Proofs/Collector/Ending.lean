import BidArchive.Proofs.Bid.Serving
import BidArchive.Proofs.Collector.Traffic

/-!
# How a collector ends

A collector that ends well went through all its stages. It came to its last way through
the channels from waiting for the sources (`exists_last_drain`), and what waited in a
channel then was taken before the channel was left (`waiting_prefix_of_last_drain`). The
last thing it did was to flush, and up to then it did nothing with its recorder but
process the batches it took and have old slots forgotten (`exists_flush`, `served`).

So no batch is lost, doubled or moved before another on its way into the recorder, and
nothing is written behind the flush (`batches_of_run`).
-/

namespace BidArchive

variable {σ ε : Type} {sink : Sink σ ε}

/-- The batch that a recorder is asked to process. -/
def Recorder.Call.batch? : Recorder.Call → Option Batch
  | .process batch => some batch
  | .housekeep _ => none

/-- The stages before the last way through the channels. -/
def Stage.isEarly : Stage ε → Bool
  | .gathering => true
  | .draining isLast _ _ => !isLast
  | .winding => true
  | _ => false

namespace Collector

open Recorder (Call serve)

variable {c c' : Collector σ ε} {source : Source} {acts : List Act} {current : Chain.Slot}
  {events : List Event} {event : Event} {result : CollectorEnd ε} {left : List Source} {count : Nat}

/-! ## Stages -/

/-- Only steps do anything and change the stage or the recorder. -/
theorem take_cases (sink : Sink σ ε) (c : Collector σ ε) (event : Event) :
    (∃ current, event = .step current) ∨
      ((c.take sink event).1 = [] ∧ (c.take sink event).2.stage = c.stage
        ∧ (c.take sink event).2.recorder = c.recorder) := by
  cases event with
  | step current => exact Or.inl ⟨current, rfl⟩
  | send source batch =>
      refine Or.inr ⟨rfl, ?_⟩
      unfold take
      dsimp only
      split <;> exact ⟨rfl, rfl⟩
  | housekeepingDue | cancel | sourcesStopped | sourcesLate => exact Or.inr ⟨rfl, rfl, rfl⟩

theorem isOpen_eq_false_iff : c.isOpen = false ↔ ∃ result, c.stage = .stopped result := by
  unfold isOpen
  cases c.stage <;> simp

theorem stage_ne_stopped (h : c.isOpen = true) : c.stage ≠ .stopped result := by
  intro hs
  rw [isOpen_eq_false_iff.mpr ⟨result, hs⟩] at h
  exact Bool.noConfusion h

/-- A collector that stopped does nothing any more. -/
theorem run_of_stopped (sink : Sink σ ε) (h : c.stage = .stopped result) (events : List Event) :
    (run sink c events).1 = [] ∧ (run sink c events).2.stage = .stopped result
      ∧ (run sink c events).2.recorder = c.recorder := by
  induction events generalizing c with
  | nil => exact ⟨rfl, h, rfl⟩
  | cons event rest ih =>
      have hone : (c.take sink event).1 = [] ∧ (c.take sink event).2.stage = c.stage
          ∧ (c.take sink event).2.recorder = c.recorder := by
        rcases take_cases sink c event with ⟨current, rfl⟩ | hquiet
        · unfold take step
          dsimp only
          rw [h]
          exact ⟨rfl, h, rfl⟩
        · exact hquiet
      obtain ⟨ha, hs, hr⟩ := hone
      obtain ⟨ha', hs', hr'⟩ := ih (hs.trans h)
      rw [run]
      dsimp only
      exact ⟨by rw [ha, ha']; rfl, hs', hr'.trans hr⟩

theorem isOpen_of_run (h : (run sink c events).2.isOpen = true) : c.isOpen = true := by
  by_contra hc
  obtain ⟨result, hs⟩ := isOpen_eq_false_iff.mp (Bool.eq_false_iff.mpr hc)
  obtain ⟨_, hstage, _⟩ := run_of_stopped sink hs events
  rw [isOpen_eq_false_iff.mpr ⟨result, hstage⟩] at h
  exact Bool.noConfusion h

/-- A run that ends well does not come through a failure. -/
theorem stage_ne_error_of_run (hend : (run sink c events).2.stage = .stopped (.ok ()))
    {halt : Halt (CollectorFault ε)} : c.stage ≠ .stopped (.error halt) := by
  intro hs
  obtain ⟨_, hstage, _⟩ := run_of_stopped sink hs events
  rw [hstage] at hend
  exact absurd (Stage.stopped.inj hend) (by simp)

/-- What a run loses it loses at some event. -/
theorem exists_crossing (p : Collector σ ε → Prop) (h : p c) (h' : ¬ p (run sink c events).2) :
    ∃ before event after, events = before ++ event :: after ∧ p (run sink c before).2
      ∧ ¬ p ((run sink c before).2.take sink event).2 := by
  induction events generalizing c with
  | nil => exact absurd h h'
  | cons event rest ih =>
      by_cases hp : p (c.take sink event).2
      · obtain ⟨before, e, after, rfl, hb, he⟩ := ih hp h'
        exact ⟨event :: before, e, after, rfl, hb, he⟩
      · exact ⟨[], event, rest, rfl, h, hp⟩

/-- Nothing but a step brings a collector to its end. -/
theorem exists_last_step (ho : c.isOpen = true) (hend : ¬ (run sink c events).2.isOpen = true) :
    ∃ before current after, events = before ++ .step current :: after
      ∧ (run sink c before).2.isOpen = true
      ∧ ¬ ((run sink c before).2.take sink (.step current)).2.isOpen = true := by
  obtain ⟨before, event, after, rfl, hb, hcross⟩ :=
    exists_crossing (fun c => c.isOpen = true) ho hend
  rcases take_cases sink (run sink c before).2 event with ⟨current, rfl⟩ | ⟨_, hstage, _⟩
  · exact ⟨before, current, after, rfl, hb, hcross⟩
  · unfold isOpen at hb hcross
    rw [hstage] at hcross
    exact absurd hb hcross

/-! ## The last way through the channels -/

/-- The only way out of the early stages that is not a failure is from waiting for the sources into
the last way through the channels. -/
theorem Turn.leaves_early (h : Turn sink current c acts c') (he : c.stage.isEarly = true)
    (hn : ¬ c'.stage.isEarly = true) :
    (c.stage = .winding ∧ c'.stage = .draining true drainOrder 0)
      ∨ ∃ halt, c'.stage = .stopped (.error halt) := by
  cases h with
  | idle | awaiting | halted | housekept => exact absurd he hn
  | cancelled => exact absurd rfl hn
  | wound hs => exact Or.inl ⟨hs, rfl⟩
  | failed | crashed | unkept => exact Or.inr ⟨_, rfl⟩
  | processed hf =>
      cases hf with
      | gathering => exact absurd rfl hn
      | draining hs =>
          rw [hs] at he
          exact absurd he hn
  | passed hs =>
      rw [hs] at he
      exact absurd he hn
  | drained hs =>
      rw [hs] at he
      rename_i isLast _
      cases isLast with
      | true => exact absurd he (by simp [Stage.isEarly])
      | false => exact absurd rfl hn
  | finished hs | unfinished hs =>
      rw [hs] at he
      exact absurd he (by simp [Stage.isEarly])

/-- **A run that ends well goes through the channels a last time**, after it waited for the
sources. -/
theorem exists_last_drain (he : c.stage.isEarly = true)
    (hend : (run sink c events).2.stage = .stopped (.ok ())) :
    ∃ before current after, events = before ++ .step current :: after
      ∧ (run sink c before).2.stage = .winding
      ∧ (run sink c (before ++ [.step current])).2.stage = .draining true drainOrder 0 := by
  -- at some event the run leaves the early stages, and only a step can do that
  obtain ⟨before, event, after, rfl, hb, hcross⟩ :=
    exists_crossing (fun c => c.stage.isEarly = true) he
      (by rw [hend]; simp [Stage.isEarly])
  rcases take_cases sink (run sink c before).2 event with ⟨current, rfl⟩ | ⟨_, hstage, _⟩
  · rcases (turn_step sink current (run sink c before).2).leaves_early hb hcross with
      ⟨hw, hd⟩ | ⟨halt, hh⟩
    · refine ⟨before, current, after, rfl, hw, ?_⟩
      rw [run_append]
      exact hd
    · rw [run_append, run] at hend
      exact absurd hh (stage_ne_error_of_run hend)
  · rw [hstage] at hcross
    exact absurd hb hcross

/-- A channel is left only when it is empty. -/
theorem Turn.drains (h : Turn sink current c acts c') (hs : c.stage = .draining true left count)
    (hm : source ∈ left) :
    c.inbox.waiting source = []
      ∨ (∃ left' count', c'.stage = .draining true left' count' ∧ source ∈ left')
      ∨ ∃ halt, c'.stage = .stopped (.error halt) := by
  cases h with
  | idle hs' | awaiting hs' | halted hs' | housekept hs' | cancelled hs' | wound hs' | finished hs'
  | unfinished hs' => exact absurd (hs.symm.trans hs') (by simp)
  | failed | crashed | unkept => exact Or.inr (Or.inr ⟨_, rfl⟩)
  | processed hf =>
      cases hf with
      | gathering hs' => exact absurd (hs.symm.trans hs') (by simp)
      | draining hs' =>
          obtain ⟨rfl, rfl, rfl⟩ := Stage.draining.inj (hs.symm.trans hs')
          exact Or.inr (Or.inl ⟨_, _, rfl, hm⟩)
  | passed hs' hempty =>
      obtain ⟨rfl, rfl, rfl⟩ := Stage.draining.inj (hs.symm.trans hs')
      rcases List.mem_cons.mp hm with rfl | hm
      · exact Or.inl hempty
      · exact Or.inr (Or.inl ⟨_, _, rfl, hm⟩)
  | drained hs' =>
      obtain ⟨_, rfl, _⟩ := Stage.draining.inj (hs.symm.trans hs')
      exact absurd hm List.not_mem_nil

/-- **What waits in a channel that is still to be gone through is taken**, if the run ends well. -/
theorem waiting_prefix_of_last_drain (hs : c.stage = .draining true left count)
    (hm : source ∈ left) (hend : (run sink c events).2.stage = .stopped (.ok ())) :
    c.inbox.waiting source <+: handedFrom source (run sink c events).1 := by
  induction events generalizing c left count with
  | nil => exact absurd (hs.symm.trans hend) (by simp)
  | cons event rest ih =>
      rw [run] at hend ⊢
      dsimp only at hend ⊢
      have hacc := admitted_accounts sink source c event
      -- whatever is left of the channel is taken later, so what was in it is taken now or later
      have hlater : (∃ left' count', (c.take sink event).2.stage = .draining true left' count'
            ∧ source ∈ left') →
          c.inbox.waiting source <+: handedFrom source
            ((c.take sink event).1 ++ (run sink (c.take sink event).2 rest).1) := by
        rintro ⟨left', count', hs', hm'⟩
        have hfirst := List.prefix_append (c.inbox.waiting source) (c.admitted source event)
        rw [hacc] at hfirst
        rw [handedFrom_append]
        exact hfirst.trans ((List.prefix_append_right_inj _).mpr (ih hs' hm' hend))
      rcases take_cases sink c event with ⟨current, rfl⟩ | ⟨_, hstage, _⟩
      · rcases (turn_step sink current c).drains hs hm with hempty | hnext | ⟨halt, hh⟩
        · rw [hempty]
          exact List.nil_prefix
        · exact hlater hnext
        · exact absurd hh (stage_ne_error_of_run hend)
      · exact hlater ⟨left, count, hstage.trans hs, hm⟩

/-! ## What the recorder goes through -/

/-- A step that leaves the collector open asks the recorder for nothing but to process the batch it
took or to forget old slots. -/
theorem Turn.served (h : Turn sink current c acts c') (ho : c'.isOpen = true) :
    ∃ calls, serve sink c.recorder calls = (.ok (), c'.recorder)
      ∧ calls.filterMap Call.batch? = (handed acts).map (·.2) := by
  cases h with
  | idle | awaiting | halted | cancelled | passed | drained => exact ⟨[], rfl, rfl⟩
  | wound _ _ hn =>
      refine ⟨[], rfl, ?_⟩
      rw [handed_notices fun act hact => (hn act hact).elim (⟨_, ·⟩) (⟨_, ·⟩)]
      rfl
  | failed | crashed | unkept | finished | unfinished => exact Bool.noConfusion ho
  | processed _ hp =>
      refine ⟨[.process _], ?_, rfl⟩
      rw [serve, Recorder.answer, hp]
      rfl
  | housekept _ _ _ _ hp _ =>
      refine ⟨[.housekeep current], ?_, rfl⟩
      rw [serve, Recorder.answer, Recorder.meet, hp]
      rfl

/-- **As long as a collector is open, its recorder has processed the batches that were taken**, one
after the other. -/
theorem served (ho : (run sink c events).2.isOpen = true) :
    ∃ calls, serve sink c.recorder calls = (.ok (), (run sink c events).2.recorder)
      ∧ calls.filterMap Call.batch? = (handed (run sink c events).1).map (·.2) := by
  induction events generalizing c with
  | nil => exact ⟨[], rfl, rfl⟩
  | cons event rest ih =>
      rw [run] at ho ⊢
      dsimp only at ho ⊢
      obtain ⟨later, hlater, hbatches⟩ := ih ho
      -- it is open at the end, so it is open behind this event too
      have hone : ∃ calls, serve sink c.recorder calls = (.ok (), (c.take sink event).2.recorder)
          ∧ calls.filterMap Call.batch? = (handed (c.take sink event).1).map (·.2) := by
        rcases take_cases sink c event with ⟨current, rfl⟩ | ⟨ha, _, hr⟩
        · exact (turn_step sink current c).served (isOpen_of_run ho)
        · exact ⟨[], by rw [hr]; rfl, by rw [ha]; rfl⟩
      obtain ⟨calls, hcalls, hb⟩ := hone
      refine ⟨calls ++ later, ?_, ?_⟩
      · rw [Recorder.serve_append, hcalls]
        exact hlater
      · rw [List.filterMap_append, handed_append, List.map_append, hb, hbatches]

/-- The only way to end well is to flush. -/
theorem Turn.ends (h : Turn sink current c acts c') (ho : c.isOpen = true)
    (hn : ¬ c'.isOpen = true) :
    (handed acts = [] ∧ c.recorder.shutdown sink = (.ok (), c'.recorder))
      ∨ ∃ halt, c'.stage = .stopped (.error halt) := by
  cases h with
  | idle | awaiting | halted | housekept => exact absurd ho hn
  | cancelled | passed | wound => exact absurd rfl hn
  | drained =>
      refine absurd ?_ hn
      unfold isOpen
      dsimp only
      split
      · split at * <;> contradiction
      · rfl
  | failed | crashed | unkept | unfinished => exact Or.inr ⟨_, rfl⟩
  | finished _ hp => exact Or.inl ⟨rfl, hp⟩
  | processed hf =>
      cases hf with
      | gathering => exact absurd rfl hn
      | draining => exact absurd rfl hn

/-- **A run that ends well ends by a flush**, and does nothing behind it. -/
theorem exists_flush (ho : c.isOpen = true)
    (hend : (run sink c events).2.stage = .stopped (.ok ())) :
    ∃ before, (run sink c before).2.isOpen = true
      ∧ (run sink c before).2.recorder.shutdown sink = (.ok (), (run sink c events).2.recorder)
      ∧ handed (run sink c events).1 = handed (run sink c before).1 := by
  obtain ⟨before, current, after, rfl, hb, hlast⟩ :=
    exists_last_step ho fun h => stage_ne_stopped h hend
  refine ⟨before, hb, ?_⟩
  rw [run_append, run] at hend ⊢
  dsimp only at hend ⊢
  rcases (turn_step sink current (run sink c before).2).ends hb hlast with
    ⟨ha, hshut⟩ | ⟨halt, hh⟩
  · -- behind the flush the collector has stopped: all that comes later does nothing
    obtain ⟨result, hs⟩ := isOpen_eq_false_iff.mp (Bool.eq_false_iff.mpr hlast)
    obtain ⟨hnone, _, hr⟩ := run_of_stopped sink hs after
    rw [hr, hnone, List.append_nil, handed_append]
    refine ⟨hshut, ?_⟩
    rw [show handed ((run sink c before).2.take sink (.step current)).1 = [] from ha,
      List.append_nil]
  · exact absurd hh (stage_ne_error_of_run hend)

/-! ## Runs that end well -/

/-- A collector that has not begun yet. -/
def fresh (s : σ) : Collector σ ε := { recorder := { sink := s } }

/--
**No batch is lost, doubled or overtaken.**

For every run that ends well, whatever the order of its events: on every channel the batches that
were taken are the first of those sent on it, and at any time the others of those sent so far wait
in it. The run comes to a last way through the channels, and
whenever that begins, all that waits in the channels then is taken behind what was taken before. The
recorder processed exactly the batches that were taken, and its sink was asked for nothing but to
write their rows and then, once, to flush.
-/
theorem batches_of_run (s : σ) (events : List Event)
    (hend : (run sink.logged (fresh (s, [])) events).2.stage = .stopped (.ok ())) :
    (∀ source, handedFrom source (run sink.logged (fresh (s, [])) events).1
        <+: sent sink.logged source (fresh (s, [])) events)
      ∧ (∀ before after, events = before ++ after → ∀ source,
          sent sink.logged source (fresh (s, [])) before
            = handedFrom source (run sink.logged (fresh (s, [])) before).1
              ++ (run sink.logged (fresh (s, [])) before).2.inbox.waiting source)
      ∧ (∃ before current after, events = before ++ .step current :: after
          ∧ (run sink.logged (fresh (s, [])) before).2.stage = .winding
          ∧ (run sink.logged (fresh (s, [])) (before ++ [.step current])).2.stage
              = .draining true drainOrder 0)
      ∧ (∀ before after, events = before ++ after →
          (run sink.logged (fresh (s, [])) before).2.stage = .draining true drainOrder 0 →
          ∀ source, handedFrom source (run sink.logged (fresh (s, [])) before).1
              ++ (run sink.logged (fresh (s, [])) before).2.inbox.waiting source
            <+: handedFrom source (run sink.logged (fresh (s, [])) events).1)
      ∧ ∃ calls r, ∃ rows : List Row, serve sink.logged { sink := (s, []) } calls = (.ok (), r)
          ∧ calls.filterMap Call.batch?
              = (handed (run sink.logged (fresh (s, [])) events).1).map (·.2)
          ∧ r.shutdown sink.logged
              = (.ok (), (run sink.logged (fresh (s, [])) events).2.recorder)
          ∧ (run sink.logged (fresh (s, [])) events).2.recorder.sink.2
              = rows.map (Sink.Entry.write · .written) ++ [.flush (.ok ())] := by
  refine ⟨fun source => handedFrom_prefix_sent rfl,
    fun before _ _ source => sent_accounts sink.logged source (fresh (s, [])) before,
    exists_last_drain rfl hend, ?_, ?_⟩
  · rintro before after rfl hs source
    rw [run_append] at hend ⊢
    dsimp only
    have hmem : source ∈ drainOrder := by cases source <;> decide
    rw [handedFrom_append]
    exact (List.prefix_append_right_inj _).mpr (waiting_prefix_of_last_drain hs hmem hend)
  · obtain ⟨before, ho, hshut, hhanded⟩ := exists_flush rfl hend
    obtain ⟨calls, hcalls, hbatches⟩ := served ho
    have hserve := hcalls
    rw [Recorder.serve_eq_undergo Mirrors.init rfl] at hserve
    obtain ⟨_, _, htakes⟩ := Recorder.undergo_ok Mirrors.init hserve
    refine ⟨calls, _, History.rows (calls.flatMap Call.happenings), hcalls, hhanded ▸ hbatches,
      hshut, ?_⟩
    rw [Recorder.log_of_shutdown hshut, Sink.log_of_takes htakes]
    rfl

/-- Batches that are sent before cancellation, behind it and while the sources wind down. -/
def windingEvents : List Event :=
  [.send .getHeader [Bid.plain ⟨7⟩ 5], .send .dataApi [Bid.plain ⟨7⟩ 5], .step ⟨9⟩, .step ⟨9⟩,
    .step ⟨9⟩, .send .dataApi [Bid.plain ⟨7⟩ 6], .cancel, .step ⟨9⟩, .step ⟨9⟩, .step ⟨9⟩,
    .send .dataApi [Bid.plain ⟨8⟩ 1], .step ⟨9⟩, .step ⟨9⟩, .step ⟨9⟩, .sourcesStopped 0,
    .step ⟨9⟩, .step ⟨9⟩, .step ⟨9⟩, .send .dataApi [Bid.plain ⟨8⟩ 2], .step ⟨9⟩, .step ⟨9⟩,
    .step ⟨9⟩, .step ⟨9⟩]

/-- Of the batches of one source the first three are taken, the third on the last way through the
channels. The fourth is sent when its channel was left. -/
theorem batches_of_winding_run :
    (run (Sink.recording Unit).logged (fresh ([], [])) windingEvents).2.stage = .stopped (.ok ())
      ∧ [[Bid.plain ⟨7⟩ 5], [Bid.plain ⟨7⟩ 6], [Bid.plain ⟨8⟩ 1]]
          <+: sent (Sink.recording Unit).logged .dataApi (fresh ([], [])) windingEvents
      ∧ ∃ rows : List Row,
          (run (Sink.recording Unit).logged (fresh ([], [])) windingEvents).2.recorder.sink.2
            = rows.map (Sink.Entry.write · .written) ++ [.flush (.ok ())] := by
  have hend : (run (Sink.recording Unit).logged (fresh ([], [])) windingEvents).2.stage
      = .stopped (.ok ()) := by rfl
  have htaken : handedFrom .dataApi
      (run (Sink.recording Unit).logged (fresh ([], [])) windingEvents).1
      = [[Bid.plain ⟨7⟩ 5], [Bid.plain ⟨7⟩ 6], [Bid.plain ⟨8⟩ 1]] := by rfl
  obtain ⟨hfirst, _, _, _, _, _, rows, _, _, _, hlog⟩ := batches_of_run [] windingEvents hend
  exact ⟨hend, htaken ▸ hfirst .dataApi, rows, hlog⟩

end Collector

end BidArchive
