import BidArchive.Collector.Basic

/-!
# Traffic through the channels

All that a step of a collector can do is listed once (`Turn`); everything else about
collectors is read off that list.

A batch that is sent goes to the end of its channel, and batches are handed to the
recorder from the front, wherever in its run the collector takes them. So for every
channel there is an account that no event upsets: what waited and was sent since is
what was taken and what waits now (`sent_accounts`).
-/

namespace BidArchive

variable {σ ε : Type} {sink : Sink σ ε}

/-! ## One channel of the inbox -/

namespace Inbox

variable {inbox inbox' : Inbox} {source s : Source} {batch : Batch}

theorem waiting_push : (inbox.push s batch).waiting source = inbox.waiting source
    ++ if s = source ∧ inbox.isFull source = false then [batch] else [] := by
  unfold push
  by_cases hs : s = source
  · subst hs
    by_cases hf : inbox.isFull s = true
    · simp [hf]
    · simp [update, hf]
  · have hne : ¬ source = s := fun h => hs h.symm
    by_cases hf : inbox.isFull s = true
    · simp [hs, hf]
    · simp [update, hs, hne, hf]

/-- The batch that is taken was the front one of its channel. -/
theorem waiting_of_pull? (h : inbox.pull? s = some (batch, inbox')) :
    inbox.waiting source = (if s = source then [batch] else []) ++ inbox'.waiting source := by
  unfold pull? at h
  split at h
  · exact absurd h (by simp)
  · rename_i b rest hw
    obtain ⟨rfl, rfl⟩ := Prod.mk.inj (Option.some.inj h)
    by_cases hs : s = source
    · subst hs
      simp [update, hw]
    · have hne : ¬ source = s := fun h => hs h.symm
      simp [update, hs, hne]

theorem waiting_eq_nil_of_pull? (h : inbox.pull? s = none) : inbox.waiting s = [] := by
  unfold pull? at h
  split at h
  · assumption
  · exact absurd h (by simp)

theorem pull?_of_pullFirst? {order : List Source}
    (h : inbox.pullFirst? order = some (s, batch, inbox')) :
    inbox.pull? s = some (batch, inbox') := by
  induction order with
  | nil => exact absurd h (by simp [pullFirst?])
  | cons first rest ih =>
      rw [pullFirst?] at h
      split at h
      · rename_i hp
        obtain ⟨rfl, rfl, rfl⟩ := by simpa only [Option.some.injEq, Prod.mk.injEq] using h
        exact hp
      · exact ih h

end Inbox

/-! ## Batches handed over -/

/-- The batch that is handed to the recorder, with its source. -/
def Act.handed? : Act → Option (Source × Batch)
  | .take source batch => some (source, batch)
  | _ => none

/-- The batches that were handed to the recorder, in order. -/
def handed (acts : List Act) : List (Source × Batch) := acts.filterMap Act.handed?

/-- The batches of one source among those that were handed to the recorder. -/
def handedFrom (source : Source) (acts : List Act) : List Batch :=
  ((handed acts).filter fun p => decide (p.1 = source)).map (·.2)

theorem handed_append (a b : List Act) : handed (a ++ b) = handed a ++ handed b :=
  List.filterMap_append

theorem handedFrom_append (source : Source) (a b : List Act) :
    handedFrom source (a ++ b) = handedFrom source a ++ handedFrom source b := by
  unfold handedFrom
  rw [handed_append, List.filter_append, List.map_append]

theorem handed_notices {acts : List Act} (h : ∀ act ∈ acts, ∃ notice, act = .notice notice) :
    handed acts = [] := by
  refine List.filterMap_eq_nil_iff.mpr fun act hact => ?_
  obtain ⟨notice, rfl⟩ := h act hact
  rfl

theorem handedFrom_of_handed {source : Source} {a b : List Act} (h : handed a = handed b) :
    handedFrom source a = handedFrom source b := by
  unfold handedFrom
  rw [h]

theorem handedFrom_take (source s : Source) (batch : Batch) :
    handedFrom source [.take s batch] = if s = source then [batch] else [] := by
  by_cases hs : s = source <;> simp [handedFrom, handed, Act.handed?, hs]

/-! ## What a step can do -/

namespace Collector

/-- A batch is next to be handed to the recorder: the collector takes it out of its inbox, goes on
with `next` if it could be processed and announces by `notices` if not. -/
inductive Fetches (c : Collector σ ε) :
    Source → Batch → Inbox → List Act → Stage ε → Prop
  | gathering {source : Source} {batch : Batch} {inbox : Inbox}
      (hs : c.stage = .gathering) (hc : c.isCancelled = false)
      (hp : c.inbox.pullFirst? drainOrder = some (source, batch, inbox)) :
      Fetches c source batch inbox [.notice .processingFailed] .gathering
  | draining {isLast : Bool} {source : Source} {rest : List Source} {count : Nat} {batch : Batch}
      {inbox : Inbox} (hs : c.stage = .draining isLast (source :: rest) count)
      (hp : c.inbox.pull? source = some (batch, inbox)) :
      Fetches c source batch inbox [] (.draining isLast (source :: rest) (count + 1))

/-- What a collector at `c` can do in a step, and how it stands then. -/
inductive Turn (sink : Sink σ ε) (current : Chain.Slot) (c : Collector σ ε) :
    List Act → Collector σ ε → Prop
  /-- Nothing to do while gathering. -/
  | idle (hs : c.stage = .gathering) (hc : c.isCancelled = false)
      (hp : c.inbox.pullFirst? drainOrder = none) (hd : c.isHousekeepingDue = false) :
      Turn sink current c [] c
  /-- The sources are not done. -/
  | awaiting (hs : c.stage = .winding) (hr : c.sources = .running) : Turn sink current c [] c
  /-- There are no steps any more. -/
  | halted {result : CollectorEnd ε} (hs : c.stage = .stopped result) : Turn sink current c [] c
  | processed {source : Source} {batch : Batch} {inbox : Inbox} {notices : List Act}
      {next : Stage ε} {recorder : Recorder σ} (hf : Fetches c source batch inbox notices next)
      (hp : c.recorder.process sink batch = (.ok (), recorder)) :
      Turn sink current c [.take source batch]
        { c with inbox := inbox, recorder := recorder, stage := next }
  | failed {source : Source} {batch : Batch} {inbox : Inbox} {notices : List Act} {next : Stage ε}
      {recorder : Recorder σ} {cause : RecorderFault ε}
      (hf : Fetches c source batch inbox notices next)
      (hp : c.recorder.process sink batch = (.error (.failed cause), recorder)) :
      Turn sink current c (.take source batch :: notices)
        { c with
          inbox := inbox
          recorder := recorder
          stage := .stopped (.error (.failed (.batch cause))) }
  | crashed {source : Source} {batch : Batch} {inbox : Inbox} {notices : List Act}
      {next : Stage ε} {recorder : Recorder σ} (hf : Fetches c source batch inbox notices next)
      (hp : c.recorder.process sink batch = (.error .crashed, recorder)) :
      Turn sink current c [.take source batch]
        { c with inbox := inbox, recorder := recorder, stage := .stopped (.error .crashed) }
  | housekept {recorder : Recorder σ} {evicted : Nat} {stats : Stats} (hs : c.stage = .gathering)
      (hc : c.isCancelled = false) (hi : c.inbox.pullFirst? drainOrder = none)
      (hd : c.isHousekeepingDue = true)
      (hp : c.recorder.housekeep (ε := ε) current = (.ok evicted, recorder))
      (ht : recorder.stats (ε := ε) = .ok stats) :
      Turn sink current c [.housekeep, .notice (.progress evicted stats)]
        { c with recorder := recorder, isHousekeepingDue := false }
  | unkept {notices : List Act} {recorder : Recorder σ} {halt : Halt (CollectorFault ε)}
      (hs : c.stage = .gathering) (hc : c.isCancelled = false)
      (hi : c.inbox.pullFirst? drainOrder = none) (hd : c.isHousekeepingDue = true)
      (hn : ∀ act ∈ notices, act = .notice .processingFailed)
      (hr : recorder.sink = c.recorder.sink) :
      Turn sink current c (.housekeep :: notices)
        { c with recorder := recorder, stage := .stopped (.error halt) }
  /-- Cancellation is noticed. -/
  | cancelled (hs : c.stage = .gathering) (hc : c.isCancelled = true) :
      Turn sink current c [.notice .draining] { c with stage := .draining false drainOrder 0 }
  /-- A channel is found empty. -/
  | passed {isLast : Bool} {source : Source} {rest : List Source} {count : Nat}
      (hs : c.stage = .draining isLast (source :: rest) count)
      (hp : c.inbox.waiting source = []) :
      Turn sink current c [] { c with stage := .draining isLast rest count }
  | drained {isLast : Bool} {count : Nat} (hs : c.stage = .draining isLast [] count) :
      Turn sink current c [.notice (.drained count)]
        { c with stage := if isLast then .flushing else .winding }
  /-- The sources are done, or too late. -/
  | wound {notices : List Act} (hs : c.stage = .winding) (hr : c.sources ≠ .running)
      (hn : ∀ act ∈ notices, act = .notice .sourceFailed ∨ act = .notice .sourcesLate) :
      Turn sink current c notices { c with stage := .draining true drainOrder 0 }
  | finished {recorder : Recorder σ} {stats : Stats} (hs : c.stage = .flushing)
      (hp : c.recorder.shutdown sink = (.ok (), recorder))
      (ht : recorder.stats (ε := ε) = .ok stats) :
      Turn sink current c [.flush, .notice (.collectorStopped stats)]
        { c with recorder := recorder, stage := .stopped (.ok ()) }
  | unfinished {result : Except (RecorderFault ε) Unit} {recorder : Recorder σ}
      {cause : RecorderFault ε} (hs : c.stage = .flushing)
      (hp : c.recorder.shutdown sink = (result, recorder))
      (hc : result = .error cause ∨ recorder.stats (ε := ε) = .error cause) :
      Turn sink current c [.flush]
        { c with recorder := recorder, stage := .stopped (.error (.failed (.recorder cause))) }

variable {c c' : Collector σ ε} {source s : Source} {batch : Batch} {inbox : Inbox}
  {acts notices : List Act} {next : Stage ε} {current : Chain.Slot} {events : List Event}

theorem turn_process (hf : Fetches c source batch inbox notices next) :
    Turn sink current c (process sink source batch notices next { c with inbox := inbox }).1
      (process sink source batch notices next { c with inbox := inbox }).2 := by
  unfold process
  dsimp only
  split
  · exact .processed hf ‹_›
  · exact .failed hf ‹_›
  · exact .crashed hf ‹_›

theorem turn_housekeep (hs : c.stage = .gathering) (hc : c.isCancelled = false)
    (hi : c.inbox.pullFirst? drainOrder = none) (hd : c.isHousekeepingDue = true) :
    Turn sink current c (housekeep current c).1 (housekeep current c).2 := by
  have hsink : ∀ {result recorder}, c.recorder.housekeep (ε := ε) current = (result, recorder) →
      recorder.sink = c.recorder.sink := by
    intro result recorder h
    unfold Recorder.housekeep at h
    split at h
    · rw [← (Prod.mk.inj h).2]
    · split at h
      all_goals rw [← (Prod.mk.inj h).2]
  unfold housekeep
  split
  · exact .unkept hs hc hi hd (by simp) (hsink ‹_›)
  · exact .unkept hs hc hi hd (by simp) (hsink ‹_›)
  · split
    · exact .unkept hs hc hi hd (by simp) (hsink ‹_›)
    · exact .housekept hs hc hi hd ‹_› ‹_›

theorem turn_finish (hs : c.stage = .flushing) :
    Turn sink current c (finish sink c).1 (finish sink c).2 := by
  unfold finish
  split
  · exact .unfinished hs ‹_› (Or.inl rfl)
  · split
    · exact .unfinished hs ‹_› (Or.inr ‹_›)
    · exact .finished hs ‹_› ‹_›

/-- **The list is complete.** -/
theorem turn_step (sink : Sink σ ε) (current : Chain.Slot) (c : Collector σ ε) :
    Turn sink current c (c.step sink current).1 (c.step sink current).2 := by
  unfold step
  -- one case for each stage
  split
  · rename_i hs
    unfold gather
    split
    · exact .cancelled hs ‹_›
    · rename_i hc
      rw [Bool.not_eq_true] at hc
      split
      · exact turn_process (.gathering hs hc ‹_›)
      · split
        · exact turn_housekeep hs hc ‹_› ‹_›
        · exact .idle hs hc ‹_› (Bool.eq_false_iff.mpr ‹_›)
  · rename_i isLast left count hs
    cases left with
    | nil => exact .drained hs
    | cons source rest =>
        rw [drain]
        split
        · exact turn_process (.draining hs ‹_›)
        · exact .passed hs (Inbox.waiting_eq_nil_of_pull? ‹_›)
  · rename_i hs
    unfold wind
    dsimp only
    split
    · exact .awaiting hs ‹_›
    · rename_i crashes hr
      exact .wound hs (by simp [hr]) fun act h => Or.inl (List.eq_of_mem_replicate h)
    · rename_i hr
      exact .wound hs (by simp [hr]) fun act h => Or.inr (List.mem_singleton.mp h)
  · exact turn_finish ‹_›
  · exact .halted ‹_›

/-! ## The account of a channel -/

/-- What an event adds to a channel: a batch that is sent on it while the collector takes batches
and there is room. A sender that finds no room has to wait, and its batch is sent when it gets to
put it into the channel. -/
def admitted (source : Source) (c : Collector σ ε) : Event → List Batch
  | .send s batch =>
    if s = source ∧ c.isOpen = true ∧ c.inbox.isFull source = false then [batch] else []
  | _ => []

/-- The batches sent on a channel in a run, in order. -/
def sent (sink : Sink σ ε) (source : Source) (c : Collector σ ε) : List Event → List Batch
  | [] => []
  | event :: rest => c.admitted source event ++ sent sink source (c.take sink event).2 rest

theorem Fetches.waiting (h : Fetches c s batch inbox notices next) (source : Source) :
    c.inbox.waiting source = handedFrom source [.take s batch] ++ inbox.waiting source := by
  rw [handedFrom_take]
  cases h with
  | gathering _ _ hp => exact Inbox.waiting_of_pull? (Inbox.pull?_of_pullFirst? hp)
  | draining _ hp => exact Inbox.waiting_of_pull? hp

theorem Fetches.handed_notices (h : Fetches c s batch inbox notices next) :
    handed (.take s batch :: notices) = handed [.take s batch] := by
  cases h with
  | gathering => rfl
  | draining => rfl

/-- **A step takes from the front.** -/
theorem Turn.waiting (h : Turn sink current c acts c') (source : Source) :
    c.inbox.waiting source = handedFrom source acts ++ c'.inbox.waiting source := by
  -- a step that hands nothing to the recorder leaves the inbox as it is
  have hnone : ∀ {acts : List Act} {c' : Collector σ ε}, handed acts = [] → c'.inbox = c.inbox →
      c.inbox.waiting source = handedFrom source acts ++ c'.inbox.waiting source := by
    intro acts c' ha hi
    rw [handedFrom, ha, hi]
    rfl
  cases h with
  | idle | awaiting | halted | housekept | cancelled | passed | drained | finished | unfinished =>
      exact hnone rfl rfl
  | unkept _ _ _ _ hn =>
      have hquiet := handed_notices fun act hact => ⟨_, hn act hact⟩
      exact hnone hquiet rfl
  | wound _ _ hn =>
      exact hnone (handed_notices fun act hact => (hn act hact).elim (⟨_, ·⟩) (⟨_, ·⟩)) rfl
  | processed hf _ => exact hf.waiting source
  | failed hf _ =>
      rw [handedFrom_of_handed hf.handed_notices]
      exact hf.waiting source
  | crashed hf _ => exact hf.waiting source

/-- One event upsets no account. -/
theorem admitted_accounts (sink : Sink σ ε) (source : Source) (c : Collector σ ε) (event : Event) :
    c.inbox.waiting source ++ c.admitted source event
      = handedFrom source (c.take sink event).1 ++ (c.take sink event).2.inbox.waiting source := by
  cases event with
  | send s batch =>
      show _ = (if c.isOpen then { c with inbox := c.inbox.push s batch } else c).inbox.waiting
        source
      -- a batch that is not admitted leaves the inbox as it was
      by_cases ho : c.isOpen = true
      · rw [if_pos ho]
        dsimp only
        rw [Inbox.waiting_push]
        simp [admitted, ho]
      · rw [if_neg ho]
        simp [admitted, ho]
  | housekeepingDue | cancel | sourcesStopped | sourcesLate => exact List.append_nil _
  | step current => exact (List.append_nil _).trans ((turn_step sink current c).waiting source)

/-! ## Runs -/

theorem run_append (p q : List Event) : run sink c (p ++ q)
    = ((run sink c p).1 ++ (run sink (run sink c p).2 q).1, (run sink (run sink c p).2 q).2) := by
  induction p generalizing c with
  | nil => rfl
  | cons event p ih =>
      rw [List.cons_append, run, run]
      dsimp only
      rw [ih, List.append_assoc]

/-- **The account of a channel over a run**: what waited and was sent was taken or waits. -/
theorem sent_accounts (sink : Sink σ ε) (source : Source) (c : Collector σ ε)
    (events : List Event) : c.inbox.waiting source ++ sent sink source c events
      = handedFrom source (run sink c events).1
        ++ (run sink c events).2.inbox.waiting source := by
  induction events generalizing c with
  | nil => exact List.append_nil _
  | cons event rest ih =>
      rw [sent, run]
      dsimp only
      rw [handedFrom_append, ← List.append_assoc, admitted_accounts sink, List.append_assoc, ih,
        List.append_assoc]

/-- What is taken from a channel that was empty is the beginning of what is sent on it. -/
theorem handedFrom_prefix_sent (h : c.inbox.waiting source = []) :
    handedFrom source (run sink c events).1 <+: sent sink source c events := by
  have hacc := sent_accounts sink source c events
  rw [h, List.nil_append] at hacc
  exact ⟨_, hacc.symm⟩

end Collector

end BidArchive
