import BidArchive.Proofs.Collector.FailStop

/-!
# The backlog of a collector

A collector takes batches in two ways: by looking at all channels again and again while it
gathers, and by going through them one after the other once it is cancelled. Both take what
waits in one order, that of the backlog. As long as nothing is sent, a step hands over the
front of the backlog and leaves the rest (`Turn.sweeps`), whichever way it takes it.

To process that rest without a collector comes to the same as before the step
(`Turn.outputOf_eq`). Housekeeping is no exception, since it is not done before nothing is
left. So every run that ends comes to what processing the backlog comes to
(`plainOutput_of_run`).
-/

namespace BidArchive

open Chain (Slot)

variable {σ ε : Type} {sink : Sink σ ε}

/-! ## The backlog -/

namespace Inbox

variable {inbox inbox' : Inbox} {source s : Source} {batch : Batch}
  {order passed rest : List Source}

/-- The batches that wait, with their sources, in the order in which the channels are looked at. -/
def backlog (inbox : Inbox) : List (Source × Batch) :=
  drainOrder.flatMap fun source => (inbox.waiting source).map fun batch => (source, batch)

/-- The bids of all batches that wait. -/
def bids (inbox : Inbox) : List Bid := (inbox.backlog.map (·.2)).flatten

theorem mem_drainOrder (source : Source) : source ∈ drainOrder := by
  cases source <;> decide

theorem backlog_eq_nil_iff : inbox.backlog = [] ↔ ∀ source, inbox.waiting source = [] := by
  unfold backlog
  rw [List.flatMap_eq_nil_iff]
  constructor
  · intro h source
    exact List.map_eq_nil_iff.mp (h source (mem_drainOrder source))
  · intro h source _
    exact List.map_eq_nil_iff.mpr (h source)

/-- Channels that were empty are still empty when a batch was taken. -/
theorem waiting_eq_nil_of_pull?_of_waiting (h : inbox.pull? s = some (batch, inbox'))
    (hempty : inbox.waiting source = []) : inbox'.waiting source = [] := by
  have hw : inbox.waiting source = (if s = source then [batch] else []) ++ inbox'.waiting source :=
    waiting_of_pull? h
  rw [hempty] at hw
  exact (List.append_eq_nil_iff.mp hw.symm).2

/-- The batches of other channels are still there when a batch was taken. -/
theorem waiting_of_pull?_ne (h : inbox.pull? s = some (batch, inbox')) (hne : s ≠ source) :
    inbox'.waiting source = inbox.waiting source := by
  have hw : inbox.waiting source = (if s = source then [batch] else []) ++ inbox'.waiting source :=
    waiting_of_pull? h
  rw [if_neg hne] at hw
  exact hw.symm

/-- **The first channel that is not empty holds the front of the backlog.** -/
theorem backlog_of_pull? (horder : drainOrder = passed ++ s :: rest)
    (hpassed : ∀ source ∈ passed, inbox.waiting source = [])
    (h : inbox.pull? s = some (batch, inbox')) :
    inbox.backlog = (s, batch) :: inbox'.backlog := by
  have hnodup : (passed ++ s :: rest).Nodup := horder ▸ (by decide)
  have hrest : s ∉ rest := (List.nodup_cons.mp (List.nodup_append.mp hnodup).2.1).1
  -- nothing in front of the channel, before and behind
  have hfront : ∀ i : Inbox, (∀ source ∈ passed, i.waiting source = []) →
      i.backlog = (i.waiting s).map (fun batch => (s, batch))
        ++ rest.flatMap fun source => (i.waiting source).map fun batch => (source, batch) := by
    intro i hi
    have hnone : passed.flatMap (fun source => (i.waiting source).map fun batch => (source, batch))
        = [] := by
      rw [List.flatMap_eq_nil_iff]
      intro source hmem
      exact List.map_eq_nil_iff.mpr (hi source hmem)
    unfold backlog
    rw [horder, List.flatMap_append, hnone, List.nil_append, List.flatMap_cons]
  have hhead : inbox.waiting s = batch :: inbox'.waiting s := by
    have hw : inbox.waiting s = (if s = s then [batch] else []) ++ inbox'.waiting s :=
      waiting_of_pull? h
    rw [if_pos rfl] at hw
    exact hw
  have htail : ∀ source ∈ rest, inbox'.waiting source = inbox.waiting source := by
    intro source hmem
    refine waiting_of_pull?_ne h ?_
    rintro rfl
    exact hrest hmem
  rw [hfront inbox hpassed, hfront inbox' fun source hmem =>
    waiting_eq_nil_of_pull?_of_waiting h (hpassed source hmem), hhead, List.map_cons,
    List.cons_append]
  congr 2
  refine List.flatMap_congr fun source hmem => ?_
  rw [htail source hmem]

/-- A channel is looked at when all before it were found empty. -/
theorem exists_passed_of_pullFirst? (h : inbox.pullFirst? order = some (s, batch, inbox')) :
    ∃ passed rest, order = passed ++ s :: rest
      ∧ ∀ source ∈ passed, inbox.waiting source = [] := by
  induction order with
  | nil => exact absurd h (by simp [pullFirst?])
  | cons first order ih =>
      rw [pullFirst?] at h
      split at h
      · obtain ⟨rfl, -, -⟩ := by simpa only [Option.some.injEq, Prod.mk.injEq] using h
        exact ⟨[], order, rfl, fun _ hmem => absurd hmem List.not_mem_nil⟩
      · rename_i hp
        obtain ⟨passed, rest, rfl, hpassed⟩ := ih h
        exact ⟨first :: passed, rest, rfl,
          List.forall_mem_cons.mpr ⟨waiting_eq_nil_of_pull? hp, hpassed⟩⟩

theorem waiting_eq_nil_of_pullFirst? (h : inbox.pullFirst? order = none) :
    ∀ source ∈ order, inbox.waiting source = [] := by
  induction order with
  | nil => exact fun _ hmem => absurd hmem List.not_mem_nil
  | cons first order ih =>
      rw [pullFirst?] at h
      split at h
      · exact absurd h (by simp)
      · rename_i hp
        exact List.forall_mem_cons.mpr ⟨waiting_eq_nil_of_pull? hp, ih h⟩

theorem backlog_eq_nil_of_pullFirst? (h : inbox.pullFirst? drainOrder = none) :
    inbox.backlog = [] := by
  rw [backlog_eq_nil_iff]
  intro source
  exact waiting_eq_nil_of_pullFirst? h source (mem_drainOrder source)

end Inbox

/-! ## Steps leave the rest of the backlog -/

/-- The channels that a collector has left, on a way through them, are empty. -/
def Stage.Swept (inbox : Inbox) : Stage ε → Prop
  | .gathering => True
  | .draining _ left _ =>
    ∃ passed, drainOrder = passed ++ left ∧ ∀ source ∈ passed, inbox.waiting source = []
  | .winding => inbox.backlog = []
  | .flushing => inbox.backlog = []
  | .stopped _ => True

/-- The event is a batch that is sent. -/
def Event.isSend : Event → Bool
  | .send _ _ => true
  | _ => false

namespace Collector

variable {c c' : Collector σ ε} {source : Source} {batch : Batch} {inbox : Inbox}
  {acts notices : List Act} {next : Stage ε} {current : Slot} {event : Event}
  {events : List Event} {result : CollectorEnd ε}

/-- What is reported of the sources hands over nothing. -/
theorem handed_of_sources
    (h : ∀ act ∈ acts, act = .notice .sourceFailed ∨ act = .notice .sourcesLate) :
    handed acts = [] :=
  handed_notices fun act hact => (h act hact).elim (⟨_, ·⟩) (⟨_, ·⟩)

/-- A batch that is fetched is the front one of the backlog. -/
theorem Fetches.backlog (h : Fetches c source batch inbox notices next)
    (hw : c.stage.Swept c.inbox) :
    c.inbox.backlog = (source, batch) :: inbox.backlog ∧ next.Swept inbox := by
  cases h with
  | gathering hs hc hp =>
      obtain ⟨passed, rest, horder, hpassed⟩ := Inbox.exists_passed_of_pullFirst? hp
      exact ⟨Inbox.backlog_of_pull? horder hpassed (Inbox.pull?_of_pullFirst? hp), trivial⟩
  | draining hs hp =>
      rw [hs] at hw
      obtain ⟨passed, horder, hpassed⟩ := hw
      refine ⟨Inbox.backlog_of_pull? horder hpassed hp, passed, horder, ?_⟩
      intro s hmem
      exact Inbox.waiting_eq_nil_of_pull?_of_waiting hp (hpassed s hmem)

/-- **A step hands over the front of the backlog and leaves the rest.** -/
theorem Turn.sweeps (h : Turn sink current c acts c') (hw : c.stage.Swept c.inbox) :
    c.inbox.backlog = handed acts ++ c'.inbox.backlog ∧ c'.stage.Swept c'.inbox := by
  cases h with
  | idle | awaiting | halted | housekept => exact ⟨rfl, hw⟩
  | processed hf => exact hf.backlog hw
  | failed hf =>
      obtain ⟨hbacklog, -⟩ := hf.backlog hw
      rw [hf.handed_notices]
      exact ⟨hbacklog, trivial⟩
  | crashed hf => exact ⟨(hf.backlog hw).1, trivial⟩
  | unkept _ _ _ _ hn =>
      have hquiet := handed_notices fun act hact => ⟨_, hn act hact⟩
      exact ⟨(congrArg (· ++ c.inbox.backlog) hquiet).symm, trivial⟩
  | cancelled => exact ⟨rfl, [], rfl, fun _ hmem => absurd hmem List.not_mem_nil⟩
  | passed hs hempty =>
      rename_i isLast empty rest count
      rw [hs] at hw
      obtain ⟨passed, horder, hpassed⟩ := hw
      refine ⟨rfl, passed ++ [empty], ?_, ?_⟩
      · rw [horder, List.append_assoc]
        rfl
      · intro s hmem
        rcases List.mem_append.mp hmem with hmem | hmem
        · exact hpassed s hmem
        · rw [List.mem_singleton.mp hmem]
          exact hempty
  | drained hs =>
      rw [hs] at hw
      obtain ⟨passed, horder, hpassed⟩ := hw
      rw [List.append_nil] at horder
      have hnone : c.inbox.backlog = [] := by
        rw [Inbox.backlog_eq_nil_iff]
        intro s
        exact hpassed s (horder ▸ Inbox.mem_drainOrder s)
      refine ⟨rfl, ?_⟩
      rename_i isLast _
      cases isLast <;> exact hnone
  | wound _ _ hn =>
      rw [handed_of_sources hn]
      exact ⟨rfl, [], rfl, fun _ hmem => absurd hmem List.not_mem_nil⟩
  | finished | unfinished => exact ⟨rfl, trivial⟩

theorem sweeps_take (sink : Sink σ ε) (hq : event.isSend = false) (hw : c.stage.Swept c.inbox) :
    c.inbox.backlog = handed (c.take sink event).1 ++ (c.take sink event).2.inbox.backlog
      ∧ (c.take sink event).2.stage.Swept (c.take sink event).2.inbox := by
  cases event with
  | step current => exact (turn_step sink current c).sweeps hw
  | send => exact absurd hq (by simp [Event.isSend])
  | housekeepingDue | cancel | sourcesStopped | sourcesLate => exact ⟨rfl, hw⟩

/-- **A run without new batches hands over the front of the backlog.** -/
theorem sweeps_run (sink : Sink σ ε) (hq : ∀ event ∈ events, event.isSend = false)
    (hw : c.stage.Swept c.inbox) :
    c.inbox.backlog = handed (run sink c events).1 ++ (run sink c events).2.inbox.backlog
      ∧ (run sink c events).2.stage.Swept (run sink c events).2.inbox := by
  induction events generalizing c with
  | nil => exact ⟨rfl, hw⟩
  | cons event rest ih =>
      obtain ⟨hevent, hrest⟩ := List.forall_mem_cons.mp hq
      obtain ⟨hone, hw'⟩ := sweeps_take sink hevent hw
      obtain ⟨hlater, hend⟩ := ih hrest hw'
      rw [run]
      dsimp only
      rw [handed_append, List.append_assoc, ← hlater]
      exact ⟨hone, hend⟩

/-! ## Processing without a collector -/

/-- What comes of batches that are handed to a recorder. -/
structure Output (σ ε : Type) where
  /-- The batches that were handed over, with their sources. -/
  taken : List (Source × Batch)
  result : CollectorEnd ε
  sink : σ
  received : Nat
  unique : Nat
  topped : Nat

/-- Batches were handed over before. -/
def Output.behind (front : List (Source × Batch)) (output : Output σ ε) : Output σ ε :=
  { output with taken := front ++ output.taken }

/-- What has come of the batches that a recorder was handed. -/
def outputAt (taken : List (Source × Batch)) (result : CollectorEnd ε) (r : Recorder σ) :
    Output σ ε where
  taken := taken
  result := result
  sink := r.sink
  received := r.ledger.received
  unique := r.ledger.unique
  topped := r.ledger.topped

/-- What comes of batches that a recorder processes one after the other, up to the first that it
cannot process, and of a flush behind the last one. -/
def outputOf (sink : Sink σ ε) (r : Recorder σ) : List (Source × Batch) → Output σ ε
  | [] =>
    let (result, state) := sink.flush r.sink
    outputAt [] (endOfFlush result) { r with sink := state }
  | (source, batch) :: rest =>
    match r.process sink batch with
    | (.ok (), r) => (outputOf sink r rest).behind [(source, batch)]
    | (.error halt, r) => outputAt [(source, batch)] (endOfBatch halt) r

/-- What has come of a run that has ended. -/
def output? (sink : Sink σ ε) (c : Collector σ ε) (events : List Event) : Option (Output σ ε) :=
  match (run sink c events).2.stage with
  | .stopped result =>
    some (outputAt (handed (run sink c events).1) result (run sink c events).2.recorder)
  | _ => none

theorem Output.behind_nil (output : Output σ ε) : output.behind [] = output := rfl

theorem Output.behind_append (a b : List (Source × Batch)) (output : Output σ ε) :
    output.behind (a ++ b) = (output.behind b).behind a := by
  unfold behind
  rw [List.append_assoc]

theorem outputOf_of_ok {r r' : Recorder σ} (h : r.process sink batch = (.ok (), r'))
    (rest : List (Source × Batch)) : outputOf sink r ((source, batch) :: rest)
      = (outputOf sink r' rest).behind [(source, batch)] := by
  rw [outputOf, h]

theorem outputOf_of_error {r r' : Recorder σ} {halt : Halt (RecorderFault ε)}
    (h : r.process sink batch = (.error halt, r')) (rest : List (Source × Batch)) :
    outputOf sink r ((source, batch) :: rest)
      = outputAt [(source, batch)] (endOfBatch halt) r' := by
  rw [outputOf, h]

/-- Whether old slots were forgotten makes no difference when nothing is left. -/
theorem outputOf_forget (sink : Sink σ ε) (r : Recorder σ) (oldest : Slot) :
    outputOf sink { r with ledger := r.ledger.forget oldest } [] = outputOf sink r [] := rfl

theorem forget_of_housekeep {r r' : Recorder σ} {evicted : Nat}
    (h : r.housekeep (ε := ε) current = (.ok evicted, r')) :
    ∃ oldest, r' = { r with ledger := r.ledger.forget oldest } := by
  unfold Recorder.housekeep at h
  split at h
  · exact absurd (Prod.mk.inj h).1 (by simp)
  · rename_i oldest _
    split at h
    · exact absurd (Prod.mk.inj h).1 (by simp)
    · exact ⟨oldest, (Prod.mk.inj h).2.symm⟩

/-- **What a step leaves comes to the same** when it is processed without the collector. -/
theorem Turn.outputOf_eq (h : Turn sink current c acts c') (hw : c.stage.Swept c.inbox)
    (ho : c.isOpen = true) (ho' : c'.isOpen = true) :
    outputOf sink c.recorder c.inbox.backlog
      = (outputOf sink c'.recorder c'.inbox.backlog).behind (handed acts) := by
  cases h with
  | idle | awaiting | cancelled | passed | drained => exact (Output.behind_nil _).symm
  | halted hs => exact absurd hs (stage_ne_stopped ho)
  | failed | crashed | unkept | finished | unfinished => exact Bool.noConfusion ho'
  | processed hf hp =>
      rw [(hf.backlog hw).1]
      exact outputOf_of_ok hp _
  | housekept hs hc hi hd hp =>
      obtain ⟨oldest, rfl⟩ := forget_of_housekeep hp
      rw [Inbox.backlog_eq_nil_of_pullFirst? hi]
      exact (outputOf_forget sink c.recorder oldest).symm
  | wound _ _ hn =>
      rw [handed_of_sources hn]
      exact (Output.behind_nil _).symm

theorem outputOf_eq_of_isOpen (sink : Sink σ ε) (hq : ∀ event ∈ events, event.isSend = false)
    (hw : c.stage.Swept c.inbox) (ho : (run sink c events).2.isOpen = true) :
    outputOf sink c.recorder c.inbox.backlog
      = (outputOf sink (run sink c events).2.recorder (run sink c events).2.inbox.backlog).behind
          (handed (run sink c events).1) := by
  induction events generalizing c with
  | nil => exact (Output.behind_nil _).symm
  | cons event rest ih =>
      obtain ⟨hevent, hrest⟩ := List.forall_mem_cons.mp hq
      rw [run] at ho ⊢
      dsimp only at ho ⊢
      have hopen : (c.take sink event).2.isOpen = true := isOpen_of_run ho
      have hw' := (sweeps_take sink hevent hw).2
      have hone : outputOf sink c.recorder c.inbox.backlog
          = (outputOf sink (c.take sink event).2.recorder
              (c.take sink event).2.inbox.backlog).behind (handed (c.take sink event).1) := by
        rcases take_cases sink c event with ⟨current, rfl⟩ | ⟨hacts, hstage, hrecorder⟩
        · have hrun : (run sink c [.step current]).2.isOpen = true := hopen
          have hstart : c.isOpen = true := isOpen_of_run hrun
          exact (turn_step sink current c).outputOf_eq hw hstart hopen
        · have hbacklog := (sweeps_take sink hevent hw).1
          rw [hacts] at hbacklog ⊢
          rw [hrecorder, hbacklog]
          rfl
      rw [hone, ih hrest hw' ho, handed_append, Output.behind_append]

/-- **The last step comes to what is left.** -/
theorem Ends.outputOf_eq (h : Ends sink c acts c') (hw : c.stage.Swept c.inbox)
    (hbacklog : c.inbox.backlog = handed acts ++ c'.inbox.backlog) :
    ∃ result, c'.stage = .stopped result
      ∧ outputOf sink c.recorder c.inbox.backlog = outputAt (handed acts) result c'.recorder := by
  cases h with
  | flush result hs ha hf =>
      refine ⟨endOfFlush result, rfl, ?_⟩
      have hnone : c.inbox.backlog = [] := by
        rw [hs] at hw
        exact hw
      rw [hnone, ha, outputOf, hf]
  | batch halt ha hp =>
      refine ⟨endOfBatch halt, rfl, ?_⟩
      rw [hbacklog, ha]
      exact outputOf_of_error hp _

/-! ## Runs that end -/

/-- Nothing is sent, and the steps are taken at moments of a clock. -/
structure Quiet (events : List Event) : Prop where
  unsent : ∀ event ∈ events, event.isSend = false
  clock : ∀ current, .step current ∈ events →
    ∃ now : Time.Instant, Slot.atInstant? now = some current

/-- What comes of the batches that wait in an inbox if they are processed without a collector. -/
def plainOutput (sink : Sink σ ε) (s : σ) (inbox : Inbox) : Output (σ × List (Sink.Entry ε)) ε :=
  outputOf sink.logged { sink := (s, []) } inbox.backlog

/-- **A run that is still open leaves what comes to the same, and one that has ended has come to
it.** -/
theorem plainOutput_of_run (sink : Sink σ ε) (s : σ) (inbox : Inbox) (h : Quiet events) :
    ((run sink.logged (beginning s inbox) events).2.isOpen = true
        ∧ plainOutput sink s inbox
          = (outputOf sink.logged (run sink.logged (beginning s inbox) events).2.recorder
              (run sink.logged (beginning s inbox) events).2.inbox.backlog).behind
                (handed (run sink.logged (beginning s inbox) events).1))
      ∨ ∃ result, (run sink.logged (beginning s inbox) events).2.stage = .stopped result
        ∧ plainOutput sink s inbox
          = outputAt (handed (run sink.logged (beginning s inbox) events).1) result
              (run sink.logged (beginning s inbox) events).2.recorder := by
  have hw : (beginning (ε := ε) s inbox).stage.Swept (beginning (ε := ε) s inbox).inbox := trivial
  by_cases ho : (run sink.logged (beginning s inbox) events).2.isOpen = true
  · exact Or.inl ⟨ho, outputOf_eq_of_isOpen sink.logged h.unsent hw ho⟩
  · -- at some step the collector ends
    right
    obtain ⟨before, current, after, rfl, hb, hlast⟩ := exists_last_step rfl ho
    have hunsent : ∀ event ∈ before, event.isSend = false :=
      fun event hmem => h.unsent event (List.mem_append_left _ hmem)
    obtain ⟨hl, -, -⟩ := exists_rows_of_isOpen hb
    obtain ⟨now, hnow⟩ := h.clock current (List.mem_append_right _ List.mem_cons_self)
    have hsofar := outputOf_eq_of_isOpen sink.logged hunsent hw hb
    have hswept := (sweeps_run sink.logged hunsent hw).2
    have hends := ends_of_step hl (Slot.isSome_earlier?_of_atInstant? hnow) hb hlast
    have hleft := (turn_step sink.logged current
      (run sink.logged (beginning s inbox) before).2).sweeps hswept
    obtain ⟨result, hstage, hlast⟩ := hends.outputOf_eq hswept hleft.1
    obtain ⟨hacts, hstage', hrecorder, -⟩ := run_of_end before (.step current) after hstage
    refine ⟨result, hstage', ?_⟩
    rw [hacts, hrecorder, handed_append]
    exact hsofar.trans (congrArg (Output.behind _) hlast)

theorem isSome_output?_iff :
    (output? sink c events).isSome ↔ (run sink c events).2.isOpen = false := by
  unfold output? isOpen
  cases (run sink c events).2.stage <;> simp

end Collector

end BidArchive
