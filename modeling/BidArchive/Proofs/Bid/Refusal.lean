import BidArchive.Proofs.Bid.Serving

/-!
# Rows that the sink does not take

A batch ends at the first row that the sink does not take, whether the write fails or
crashes. Up to there it went like the same batch over a sink that takes everything, and
the ledger is left as that run had it when the row went out: what the row says is
entered, though the row itself is nowhere (`batch_of_failing_sink`). So the row is not
asked for again while its slot is remembered, and a recorder that is used on keeps as
many figures as it asked for rows (`Counted.after`).
-/

namespace BidArchive

open Chain (Slot)

variable {σ ε : Type} {sink : Sink σ ε}

/-! ## A sink that stops at a row -/

namespace Sink

variable {rows done later p q : List Row} {row : Row} {k : Nat} {s m s' : σ}

theorem takes_append_cons : sink.Takes (p ++ row :: q) s s'
    ↔ ∃ m n, sink.Takes p s m ∧ sink.write row m = (.written, n) ∧ sink.Takes q n s' := by
  rw [takes_append]
  constructor
  · rintro ⟨m, hp, n, hw, hq⟩
    exact ⟨m, n, hp, hw, hq⟩
  · rintro ⟨m, n, hp, hw, hq⟩
    exact ⟨m, hp, n, hw, hq⟩

/-- A row that the sink does not take in a state is not among the rows it takes. -/
theorem not_takes_of_not_written (hp : sink.Takes p s m) (hw : (sink.write row m).1 ≠ .written) :
    ¬ sink.Takes (p ++ row :: q) s s' := by
  intro h
  obtain ⟨m', n, hp', hn, _⟩ := takes_append_cons.mp h
  obtain rfl := hp.unique hp'
  exact hw (by rw [hn])

/-- The sink takes the first `k` of the rows, and not the one behind them if there is one. -/
def StopsAt (sink : Sink σ ε) (rows : List Row) (k : Nat) (s : σ) : Prop :=
  ∃ m, sink.Takes (rows.take k) s m ∧ ∀ row, rows[k]? = some row → (sink.write row m).1 ≠ .written

theorem StopsAt.not_takes (h : sink.StopsAt rows k s) (hk : k < rows.length) :
    ¬ sink.Takes rows s s' := by
  obtain ⟨m, ht, hw⟩ := h
  rw [← List.take_append_drop k rows, List.drop_eq_getElem_cons hk]
  exact not_takes_of_not_written ht (hw _ (List.getElem?_eq_getElem hk))

/-- Where a sink stops is settled: at the first row that it does not take. -/
theorem StopsAt.eq_length (h : sink.StopsAt (done ++ row :: later) k s)
    (ht : sink.Takes done s m) (hw : (sink.write row m).1 ≠ .written) : k = done.length := by
  obtain ⟨m', ht', hw'⟩ := h
  rcases Nat.lt_trichotomy k done.length with hlt | heq | hgt
  · -- the row at `k` is one of those that were taken
    refine absurd ht ?_
    rw [← List.take_append_drop k done, List.drop_eq_getElem_cons hlt]
    rw [List.take_append_of_le_length (Nat.le_of_lt hlt)] at ht'
    refine not_takes_of_not_written ht' (hw' _ ?_)
    rw [List.getElem?_append_left hlt]
    exact List.getElem?_eq_getElem hlt
  · exact heq
  · -- the row that was not taken is one of the first `k`
    obtain ⟨d, rfl⟩ : ∃ d, k = done.length + (d + 1) := ⟨k - done.length - 1, by omega⟩
    rw [List.take_length_add_append, List.take_succ_cons] at ht'
    exact absurd ht' (not_takes_of_not_written ht hw)

end Sink

/-! ## What ledgers go on to remember -/

namespace Ledger

variable {l l' l'' : Ledger} {slot : Slot} {bid b : Bid} {row : Row}

/-- The second ledger remembers of the slot what the first one does: its keys, and a top bid that is
at least as high. -/
structure Extends (slot : Slot) (l l' : Ledger) : Prop where
  keys : ∀ k ∈ l.keysOf slot, k ∈ l'.keysOf slot
  top : ∀ t, l.top? slot = some t → ∃ t', l'.top? slot = some t' ∧ t.value ≤ t'.value

theorem Extends.of_eq (hk : l'.keysOf slot = l.keysOf slot) (ht : l'.top? slot = l.top? slot) :
    Extends slot l l' where
  keys k h := by
    rw [hk]
    exact h
  top t h := ⟨t, ht.trans h, BitVec.le_refl _⟩

theorem Extends.trans (h : Extends slot l l') (h' : Extends slot l' l'') : Extends slot l l'' where
  keys k hk := h'.keys k (h.keys k hk)
  top t ht := by
    obtain ⟨t₁, ht₁, hle₁⟩ := h.top t ht
    obtain ⟨t₂, ht₂, hle₂⟩ := h'.top t₁ ht₁
    exact ⟨t₂, ht₂, BitVec.le_trans hle₁ hle₂⟩

theorem extends_noted (l : Ledger) (bid : Bid) : Extends slot l (l.noted bid) where
  keys _ hk := mem_keysOf_noted.mpr (.inr hk)
  top t ht := ⟨t, top?_noted.trans ht, BitVec.le_refl _⟩

theorem extends_taken (l : Ledger) (bid : Bid) : Extends slot l (l.taken bid) where
  keys _ hk := mem_keysOf_taken.mpr (.inr hk)
  top t ht := by
    rw [top?_taken]
    split
    · rename_i hl
      -- the bid is above the one that it takes the place of
      obtain ⟨rfl, hleads⟩ := hl
      unfold leads at hleads
      rw [ht] at hleads
      exact ⟨bid, rfl, BitVec.le_of_lt (of_decide_eq_true hleads)⟩
    · exact ⟨t, ht, BitVec.le_refl _⟩

theorem extends_takenAll (l : Ledger) (bids : List Bid) : Extends slot l (l.takenAll bids) := by
  induction bids generalizing l with
  | nil => exact .of_eq rfl rfl
  | cons bid rest ih => exact (extends_taken l bid).trans (ih (l.taken bid))

theorem bid_of_mem_rowsFor (h : row ∈ l.rowsFor bid) : row.bid = bid := by
  unfold rowsFor at h
  rcases List.mem_append.mp h with h | h
  · split at h
    · exact absurd h List.not_mem_nil
    · rw [List.mem_singleton.mp h]
  · split at h
    · rw [List.mem_singleton.mp h]
    · exact absurd h List.not_mem_nil

theorem all_mem_rowsFor : ⟨.all, bid⟩ ∈ l.rowsFor bid ↔ l.seen bid = false := by
  unfold rowsFor
  cases l.seen bid <;> cases l.leads bid <;> simp

theorem top_mem_rowsFor : ⟨.top, bid⟩ ∈ l.rowsFor bid ↔ l.leads bid = true := by
  unfold rowsFor
  cases l.seen bid <;> cases l.leads bid <;> simp

/-- What a ledger holds when a row goes out is what it holds once that much of the bid is taken. -/
theorem atWrite_cases (hrow : row ∈ l.rowsFor bid) :
    (row = ⟨.all, bid⟩ ∧ l.atWrite row.kind bid = l.noted bid)
      ∨ (row = ⟨.top, bid⟩ ∧ l.leads bid = true ∧ l.atWrite row.kind bid = l.taken bid) := by
  obtain ⟨kind, b⟩ := row
  obtain rfl : b = bid := bid_of_mem_rowsFor hrow
  cases kind with
  | all =>
      refine Or.inl ⟨rfl, ?_⟩
      unfold atWrite noted
      dsimp only
      rw [seen_arrive, all_mem_rowsFor.mp hrow, if_neg (by decide)]
  | top =>
      have hl := top_mem_rowsFor.mp hrow
      refine Or.inr ⟨rfl, hl, ?_⟩
      unfold atWrite taken
      dsimp only
      rw [leads_noted, if_pos hl]

theorem extends_atWrite (hrow : row ∈ l.rowsFor bid) :
    Extends slot l (l.atWrite row.kind bid) := by
  rcases atWrite_cases hrow with ⟨_, he⟩ | ⟨_, _, he⟩
  · rw [he]
    exact extends_noted l bid
  · rw [he]
    exact extends_taken l bid

/-- A bid whose row of a new bid goes out is known by then. -/
theorem seen_atWrite (hrow : ⟨.all, bid⟩ ∈ l.rowsFor bid) :
    (l.atWrite .all bid).seen bid = true := by
  obtain ⟨_, he⟩ | ⟨he, _⟩ := atWrite_cases hrow
  · rw [show l.atWrite .all bid = l.noted bid from he]
    exact List.contains_iff_mem.mpr (mem_keysOf_noted.mpr (.inl ⟨rfl, rfl⟩))
  · exact absurd he (by simp)

/-- A bid whose row of a leading bid goes out is the top bid by then. -/
theorem top?_atWrite (l : Ledger) (bid : Bid) :
    (l.atWrite .top bid).top? bid.slot = some bid := top?_crown.trans (if_pos rfl)

/-- **A row that went out is settled**, whatever became of it. -/
theorem not_mem_rowsFor_atWrite (hrow : row ∈ l.rowsFor bid) :
    row ∉ (l.atWrite row.kind bid).rowsFor bid := by
  obtain ⟨kind, b⟩ := row
  obtain rfl : b = bid := bid_of_mem_rowsFor hrow
  cases kind with
  | all =>
      rw [all_mem_rowsFor, seen_atWrite hrow]
      decide
  | top =>
      rw [top_mem_rowsFor]
      unfold leads
      rw [top?_atWrite]
      simp

/-- What was settled stays so while the ledger remembers as much of the slot. -/
theorem Extends.not_mem_rowsFor (h : Extends row.bid.slot l l') (hn : row ∉ l.rowsFor row.bid) :
    row ∉ l'.rowsFor row.bid := by
  obtain ⟨kind, bid⟩ := row
  cases kind with
  | all =>
      rw [all_mem_rowsFor, Bool.not_eq_false] at hn ⊢
      exact List.contains_iff_mem.mpr (h.keys _ (List.contains_iff_mem.mp hn))
  | top =>
      rw [top_mem_rowsFor, Bool.not_eq_true] at hn ⊢
      unfold leads at hn ⊢
      cases ht : l.top? bid.slot with
      | none =>
          rw [ht] at hn
          exact absurd hn (by simp)
      | some t =>
          rw [ht] at hn
          obtain ⟨t', ht', hle⟩ := h.top t ht
          rw [ht']
          have hn' := of_decide_eq_false hn
          refine decide_eq_false fun hlt => hn' ?_
          rw [BitVec.le_def] at hle
          rw [BitVec.lt_def] at hlt ⊢
          exact Nat.lt_of_le_of_lt hle hlt

end Ledger

/-! ## Batches that stop -/

/-- The calculation ended by a crash. -/
def Halt.isCrash {φ : Type} : Halt φ → Bool
  | .failed _ => false
  | .crashed => true

namespace Recorder

variable {r r' r₁ : Recorder σ} {bid : Bid} {batch before : List Bid} {row : Row} {slot : Slot}
  {halt : Halt (RecorderFault ε)} {k : Nat}

/-- What a write leaves behind that does not succeed. -/
theorem write_error (h : write sink row r = (.error halt, r')) :
    r'.ledger = r.ledger ∧ r'.locked = (r.locked || halt.isCrash) := by
  unfold write at h
  split at h
  · exact absurd (Prod.mk.inj h).1 (by simp)
  · obtain ⟨hh, rfl⟩ := Prod.mk.inj h
    rw [← Except.error.inj hh]
    exact ⟨rfl, (Bool.or_false _).symm⟩
  · obtain ⟨hh, rfl⟩ := Prod.mk.inj h
    rw [← Except.error.inj hh]
    exact ⟨rfl, (Bool.or_true _).symm⟩

theorem Refuses.not_written {m s' : σ} (h : Refuses sink row m s' halt) :
    (sink.write row m).1 ≠ .written := by
  rcases h with ⟨cause, hw, _⟩ | ⟨hw, _⟩
  all_goals rw [hw]; simp

/-- A recorder that is not locked takes the bids of a batch one after the other. -/
theorem process_eq_takeAll (hl : r.locked = false) (batch : List Bid) :
    process sink batch r = takeAll sink r batch := by
  unfold process
  rw [hl]
  rfl

theorem takeAll_append (h : takeAll sink r before = (.ok (), r₁)) (rest : List Bid) :
    takeAll sink r (before ++ rest) = takeAll sink r₁ rest := by
  induction before generalizing r with
  | nil => rw [(Prod.mk.inj h).2, List.nil_append]
  | cons bid before ih =>
      rw [takeAll] at h
      rw [List.cons_append, takeAll]
      split at h
      · exact ih h
      · exact absurd (Prod.mk.inj h).1 (by simp)

/-- **Bids are taken if and only if the sink takes their rows.** -/
theorem takeAll_ok_iff : takeAll sink r batch = (.ok (), r')
    ↔ ∃ s', sink.Takes (r.ledger.rowsForAll batch) r.sink s'
        ∧ r' = { r with ledger := r.ledger.takenAll batch, sink := s' } := by
  induction batch generalizing r with
  | nil =>
      constructor
      · intro h; exact ⟨r.sink, rfl, (Prod.mk.inj h).2.symm⟩
      · rintro ⟨s', rfl, rfl⟩; rfl
  | cons bid rest ih =>
      rw [takeAll]
      constructor
      · intro h
        split at h
        · rename_i h₁
          obtain ⟨m, hm, rfl⟩ := take_ok_iff.mp h₁
          obtain ⟨s', hs', rfl⟩ := ih.mp h
          exact ⟨s', Sink.takes_append.mpr ⟨m, hm, hs'⟩, rfl⟩
        · exact absurd (Prod.mk.inj h).1 (by simp)
      · rintro ⟨s', hs', rfl⟩
        obtain ⟨m, hm, hrest⟩ := Sink.takes_append.mp hs'
        rw [take_ok_iff.mpr ⟨m, hm, rfl⟩]
        exact ih.mpr ⟨s', hrest, rfl⟩

/-- Bids that are not all taken stop at one of them. -/
theorem takeAll_error (h : takeAll sink r batch = (.error halt, r')) :
    ∃ before bid after r₁, batch = before ++ bid :: after
      ∧ takeAll sink r before = (.ok (), r₁) ∧ take sink bid r₁ = (.error halt, r') := by
  induction batch generalizing r with
  | nil => exact absurd (Prod.mk.inj h).1 (by simp)
  | cons bid rest ih =>
      rw [takeAll] at h
      split at h
      · rename_i r₂ h₂
        obtain ⟨before, b, after, r₁, rfl, hb, ht⟩ := ih h
        refine ⟨bid :: before, b, after, r₁, rfl, ?_, ht⟩
        rw [takeAll, h₂]
        exact hb
      · rename_i f r₂ h₂
        refine ⟨[], bid, rest, r, rfl, rfl, ?_⟩
        rw [h₂]
        exact h

/-- **A batch that is not processed** stops at a row of one of its bids. The rows before it are
taken, the ledger is left as it stood when the row went out, and no later bid is looked at. -/
theorem process_error (hl : r.locked = false)
    (h : process sink batch r = (.error halt, r')) :
    ∃ before bid after done row later m, batch = before ++ bid :: after
      ∧ (r.ledger.takenAll before).rowsFor bid = done ++ row :: later
      ∧ sink.Takes (r.ledger.rowsForAll before ++ done) r.sink m
      ∧ Refuses sink row m r'.sink halt
      ∧ r'.ledger = (r.ledger.takenAll before).atWrite row.kind bid
      ∧ r'.locked = halt.isCrash
      ∧ ∀ other, process sink (before ++ bid :: other) r = (.error halt, r') := by
  rw [process_eq_takeAll hl] at h
  obtain ⟨before, bid, after, r₁, rfl, hb, ht⟩ := takeAll_error h
  obtain ⟨n, hn, rfl⟩ := takeAll_ok_iff.mp hb
  obtain ⟨done, row, later, m, hrows, hm, hw⟩ := take_error ht
  obtain ⟨hledger, hlocked⟩ := write_error hw
  refine ⟨before, bid, after, done, row, later, m, rfl, hrows,
    Sink.takes_append.mpr ⟨n, hn, hm⟩, refuses_of_write hw, hledger, ?_, fun other => ?_⟩
  · rw [hlocked, hl, Bool.false_or]
  · rw [process_eq_takeAll hl, takeAll_append hb, takeAll, ht]

/-- Over the sink that remembers its rows every batch is processed. -/
theorem process_recording (ledger : Ledger) (batch : List Bid) :
    process (Sink.recording ε) batch { ledger := ledger, sink := [] }
      = (.ok (), { ledger := ledger.takenAll batch, sink := ledger.rowsForAll batch }) := by
  show takeAll (Sink.recording ε) { ledger := ledger, sink := [] } batch = _
  exact (takeAll_ok_iff (r := { ledger := ledger, sink := [] })).mpr
    ⟨_, Sink.takes_recording.mpr rfl, rfl⟩

/-! ## Recorders that are used on -/

/-- What a recorder may be asked for, also after it failed. -/
inductive Request
  | call (call : Call)
  | shutdown
deriving DecidableEq, Repr

/-- The recorder after a request, whatever came of it. -/
def comply (sink : Sink σ ε) (r : Recorder σ) : Request → Recorder σ
  | .call call => (answer sink r call).2
  | .shutdown => (r.shutdown sink).2

/-- The recorder after requests. -/
def after (sink : Sink σ ε) (r : Recorder σ) (requests : List Request) : Recorder σ :=
  requests.foldl (comply sink) r

theorem shutdown_leaves (r : Recorder σ) : (r.shutdown sink).2.ledger = r.ledger
    ∧ (r.shutdown sink).2.locked = r.locked := by
  unfold shutdown
  split <;> exact ⟨rfl, rfl⟩

/-- Housekeeping leaves a recorder as it is, or forgets the slots from before some slot. -/
theorem meet_housekeeping_cases (sink : Sink σ ε) (r : Recorder σ) (current : Slot) :
    (meet sink r (.housekeeping current)).2 = r
      ∨ ∃ oldest, (meet sink r (.housekeeping current)).2
          = { r with ledger := r.ledger.forget oldest } := by
  unfold meet housekeep
  dsimp only
  cases current.earlier? slotsKept with
  | none => exact Or.inl rfl
  | some oldest =>
      dsimp only
      by_cases hl : r.locked = true
      · rw [if_pos hl]
        exact Or.inl rfl
      · rw [if_neg hl]
        exact Or.inr ⟨oldest, rfl⟩

/-! ### The lock -/

/-- Whatever needs the ledger fails, and changes nothing. -/
structure Shut (sink : Sink σ ε) (r : Recorder σ) : Prop where
  process : ∀ batch, process sink batch r = (.error (.failed .locked), r)
  housekeep : ∀ current : Slot, (current.earlier? slotsKept).isSome →
    r.housekeep (ε := ε) current = (.error (.failed .locked), r)
  stats : r.stats (ε := ε) = .error .locked
  topBid : ∀ slot, r.topBid (ε := ε) slot = .error .locked
  trackedSlots : r.trackedSlots (ε := ε) = .error .locked

theorem shut_of_locked (sink : Sink σ ε) (hl : r.locked = true) : Shut sink r where
  process batch := by
    unfold Recorder.process
    rw [if_pos hl]
  housekeep current hc := by
    obtain ⟨oldest, ho⟩ := Option.isSome_iff_exists.mp hc
    unfold Recorder.housekeep
    rw [ho]
    dsimp only
    rw [if_pos hl]
  stats := if_pos hl
  topBid _ := if_pos hl
  trackedSlots := if_pos hl

theorem locked_comply (hl : r.locked = true) (request : Request) :
    (comply sink r request).locked = true := by
  cases request with
  | shutdown => exact (shutdown_leaves r).2.trans hl
  | call call =>
      cases call with
      | process batch =>
          show (process sink batch r).2.locked = true
          rw [(shut_of_locked sink hl).process]
          exact hl
      | housekeep current =>
          show (meet sink r (.housekeeping current)).2.locked = true
          rcases meet_housekeeping_cases sink r current with h | ⟨oldest, h⟩
          all_goals rw [h]; exact hl

/-- **A crash shuts the recorder for good.** -/
theorem shut_after (hl : r.locked = true) (requests : List Request) :
    Shut sink (after sink r requests) := by
  induction requests generalizing r with
  | nil => exact shut_of_locked sink hl
  | cons request rest ih => exact ih (locked_comply hl request)

/-! ### The memory -/

/-- **All that a request can do to the ledger.** -/
theorem ledger_comply_cases (sink : Sink σ ε) (r : Recorder σ) (request : Request) :
    (comply sink r request).ledger = r.ledger
      ∨ (∃ oldest, (comply sink r request).ledger = r.ledger.forget oldest)
      ∨ (∃ bids, (comply sink r request).ledger = r.ledger.takenAll bids)
      ∨ ∃ before bid, ∃ row ∈ (r.ledger.takenAll before).rowsFor bid,
          (comply sink r request).ledger
            = (r.ledger.takenAll before).atWrite row.kind bid := by
  cases request with
  | shutdown => exact Or.inl (shutdown_leaves r).1
  | call call =>
      cases call with
      | housekeep current =>
          rcases meet_housekeeping_cases sink r current with h | ⟨oldest, h⟩
          · exact Or.inl (congrArg Recorder.ledger h)
          · exact Or.inr (Or.inl ⟨oldest, congrArg Recorder.ledger h⟩)
      | process batch =>
          show (process sink batch r).2.ledger = _ ∨ (∃ oldest, (process sink batch r).2.ledger = _)
            ∨ (∃ bids, (process sink batch r).2.ledger = _)
            ∨ ∃ before bid, ∃ row ∈ _, (process sink batch r).2.ledger = _
          by_cases hl : r.locked = true
          · rw [(shut_of_locked sink hl).process]
            exact Or.inl rfl
          · rw [Bool.not_eq_true] at hl
            cases hp : process sink batch r with
            | mk result r' =>
                cases result with
                | ok u =>
                    rw [process_eq_takeAll hl] at hp
                    obtain ⟨_, _, rfl⟩ := takeAll_ok_iff.mp hp
                    exact Or.inr (Or.inr (Or.inl ⟨batch, rfl⟩))
                | error halt =>
                    obtain ⟨before, bid, _, done, row, later, _, _, hrows, _, _, hledger, _⟩ :=
                      process_error hl hp
                    refine Or.inr (Or.inr (Or.inr ⟨before, bid, row, ?_, hledger⟩))
                    rw [hrows]
                    exact List.mem_append_right _ List.mem_cons_self

/-- **Keys and highest bids stay in step**, also through requests that fail. -/
theorem inStep_comply (h : r.ledger.InStep) (request : Request) :
    (comply sink r request).ledger.InStep := by
  rcases ledger_comply_cases sink r request with
    he | ⟨oldest, he⟩ | ⟨bids, he⟩ | ⟨before, bid, row, _, he⟩
  all_goals rw [he]
  · exact h
  · exact h.forget oldest
  · exact h.takenAll bids
  · exact (h.takenAll before).atWrite row.kind bid

theorem inStep_after (h : r.ledger.InStep) (requests : List Request) :
    (after sink r requests).ledger.InStep := by
  induction requests generalizing r with
  | nil => exact h
  | cons request rest ih => exact ih (inStep_comply h request)

/-- **No top bid outlives the memory of its slot**, whatever a recorder is asked for. -/
theorem mem_slots_of_top?_after {s : σ} {requests : List Request}
    (ht : ((after sink { sink := s } requests).ledger.top? slot).isSome) :
    slot ∈ (after sink { sink := s } requests).ledger.slots :=
  inStep_after Ledger.inStep_empty requests slot ht

/-- **While a slot is remembered nothing of it is lost.** -/
theorem extends_comply {request : Request}
    (hs : slot ∈ (comply sink r request).ledger.slots) :
    Ledger.Extends slot r.ledger (comply sink r request).ledger := by
  rcases ledger_comply_cases sink r request with
    h | ⟨oldest, h⟩ | ⟨bids, h⟩ | ⟨before, bid, row, hrow, h⟩
  all_goals rw [h] at hs ⊢
  · exact .of_eq rfl rfl
  · -- the slot is not among those that went
    have hlt := (Ledger.mem_slots_forget.mp hs).1
    exact .of_eq (Ledger.keysOf_forget.trans (if_neg hlt)) (Ledger.top?_forget.trans (if_neg hlt))
  · exact Ledger.extends_takenAll r.ledger bids
  · exact (Ledger.extends_takenAll r.ledger before).trans (Ledger.extends_atWrite hrow)

/-- A row that is settled is not asked for again while its slot is remembered. -/
theorem not_mem_rowsFor_after (row : Row) (requests : List Request)
    (hs : ∀ asked, asked <+: requests → row.bid.slot ∈ (after sink r asked).ledger.slots)
    (hn : row ∉ r.ledger.rowsFor row.bid) :
    row ∉ (after sink r requests).ledger.rowsFor row.bid := by
  induction requests generalizing r with
  | nil => exact hn
  | cons request rest ih =>
      have hone : row.bid.slot ∈ (comply sink r request).ledger.slots :=
        hs [request] (List.prefix_append [request] rest)
      refine ih (fun asked hasked => ?_) ((extends_comply hone).not_mem_rowsFor hn)
      exact hs (request :: asked) ((List.prefix_cons_inj request).mpr hasked)

/-! ### The figures -/

end Recorder

/-- What is asked of a sink is to write. -/
def Sink.Entry.isWrite : Sink.Entry ε → Bool
  | .write _ _ => true
  | .flush _ => false

namespace Recorder

/-- The figures of rows come to the writes that the sink was asked for. -/
def Counted (r : Recorder (σ × List (Sink.Entry ε))) : Prop :=
  r.sink.2.countP Sink.Entry.isWrite = r.ledger.unique + r.ledger.topped

variable {q q' : Recorder (σ × List (Sink.Entry ε))}

theorem write_logged (sink : Sink σ ε) (row : Row) : ∃ verdict,
    (write sink.logged row q).2.sink.2 = q.sink.2 ++ [.write row verdict]
      ∧ (write sink.logged row q).2.ledger = q.ledger := by
  unfold write Sink.logged
  dsimp only
  split
  all_goals
    rename_i h
    obtain ⟨hv, rfl⟩ := Prod.mk.inj h
    exact ⟨_, rfl, rfl⟩

/-- A row that goes out adds to one of the figures, whether or not it is taken. -/
theorem counted_write {row : Row}
    (h : q.sink.2.countP Sink.Entry.isWrite + 1 = q.ledger.unique + q.ledger.topped) :
    Counted (write sink.logged row q).2 := by
  obtain ⟨verdict, hlog, hledger⟩ := write_logged (q := q) sink row
  unfold Counted
  rw [hlog, hledger, List.countP_append, ← h]
  rfl

theorem Counted.takeNew (h : Counted q) (sink : Sink σ ε) (bid : Bid) :
    Counted (Recorder.takeNew sink.logged bid q).2 := by
  unfold Recorder.takeNew
  split
  · exact h
  · refine counted_write ?_
    show _ = q.ledger.unique + 1 + q.ledger.topped
    rw [show q.sink.2.countP Sink.Entry.isWrite = _ from h]
    omega

theorem Counted.takeTop (h : Counted q) (sink : Sink σ ε) (bid : Bid) :
    Counted (Recorder.takeTop sink.logged bid q).2 := by
  unfold Recorder.takeTop
  split
  · refine counted_write ?_
    show _ = q.ledger.unique + (q.ledger.topped + 1)
    rw [show q.sink.2.countP Sink.Entry.isWrite = _ from h]
    omega
  · exact h

theorem Counted.take (h : Counted q) (sink : Sink σ ε) (bid : Bid) :
    Counted (Recorder.take sink.logged bid q).2 := by
  have hnew := Counted.takeNew (q := { q with ledger := q.ledger.arrive bid }) h sink bid
  unfold Recorder.take
  split
  · rename_i hn
    rw [hn] at hnew
    exact hnew.takeTop sink bid
  · rename_i hn
    rw [hn] at hnew
    exact hnew

theorem Counted.takeAll (h : Counted q) (sink : Sink σ ε) (batch : List Bid) :
    Counted (Recorder.takeAll sink.logged q batch).2 := by
  induction batch generalizing q with
  | nil => exact h
  | cons bid rest ih =>
      have hone := h.take sink bid
      rw [Recorder.takeAll]
      split
      · rename_i ht
        rw [ht] at hone
        exact ih hone
      · rename_i ht
        rw [ht] at hone
        exact hone

theorem Counted.comply (h : Counted q) (sink : Sink σ ε) (request : Request) :
    Counted (Recorder.comply sink.logged q request) := by
  cases request with
  | shutdown =>
      show Counted (q.shutdown sink.logged).2
      have hlog : (q.shutdown sink.logged).2.sink.2.countP Sink.Entry.isWrite
          = q.sink.2.countP Sink.Entry.isWrite := by
        unfold shutdown
        split
        all_goals
          rename_i hf
          dsimp only
          rw [Sink.log_of_flush hf, List.countP_append]
          rfl
      unfold Counted
      rw [(shutdown_leaves q).1, hlog]
      exact h
  | call call =>
      cases call with
      | process batch =>
          show Counted (process sink.logged batch q).2
          unfold process
          split
          · exact h
          · exact h.takeAll sink batch
      | housekeep current =>
          show Counted (meet sink.logged q (.housekeeping current)).2
          rcases meet_housekeeping_cases sink.logged q current with hm | ⟨oldest, hm⟩
          all_goals rw [hm]; exact h

/-- **As many rows were asked for as are counted**, whatever became of them. -/
theorem Counted.after (h : Counted q) (sink : Sink σ ε) (requests : List Request) :
    Counted (Recorder.after sink.logged q requests) := by
  induction requests generalizing q with
  | nil => exact h
  | cons request rest ih => exact ih (h.comply sink request)

/-! ## Batches over a sink that fails -/

/-- A batch over a sink that stops at a row fails at that row. -/
theorem process_error_of_stopsAt (hl : r.locked = false)
    (hk : sink.StopsAt (r.ledger.rowsForAll batch) k r.sink)
    (h : process sink batch r = (.error halt, r')) :
    ∃ before bid behind row m, batch = before ++ bid :: behind
      ∧ (r.ledger.rowsForAll before).length ≤ k
      ∧ k < (r.ledger.rowsForAll (before ++ [bid])).length
      ∧ (r.ledger.rowsForAll batch)[k]? = some row
      ∧ row ∈ (r.ledger.takenAll before).rowsFor bid
      ∧ sink.Takes ((r.ledger.rowsForAll batch).take k) r.sink m
      ∧ Refuses sink row m r'.sink halt
      ∧ r'.ledger = (r.ledger.takenAll before).atWrite row.kind bid
      ∧ r'.locked = halt.isCrash
      ∧ ∀ other, process sink (before ++ bid :: other) r = (.error halt, r') := by
  obtain ⟨before, bid, behind, done, row, later, m, rfl, hrows, ht, hrefused, hledger, hlocked,
    hother⟩ := process_error hl h
  -- the rows of the whole batch, cut at the one that was refused
  have hcut : ∀ rest, r.ledger.rowsForAll (before ++ bid :: rest)
      = (r.ledger.rowsForAll before ++ done)
        ++ row :: (later ++ ((r.ledger.takenAll before).taken bid).rowsForAll rest) := by
    intro rest
    rw [Ledger.rowsForAll_append, Ledger.rowsForAll, hrows]
    simp only [List.append_assoc, List.cons_append]
  rw [hcut] at hk ⊢
  obtain rfl := hk.eq_length ht hrefused.not_written
  refine ⟨before, bid, behind, row, m, rfl, ?_, ?_, ?_, ?_, ?_, hrefused, hledger, hlocked,
    hother⟩
  · rw [List.length_append]
    exact Nat.le_add_right _ _
  · rw [hcut]
    simp
  · exact List.getElem?_append_right (Nat.le_refl _) |>.trans (by simp)
  · rw [hrows]
    exact List.mem_append_right _ List.mem_cons_self
  · rw [List.take_left]
    exact ht

/--
**A batch fails where its sink does, and leaves everything as it was at that row.**

Set beside the run of the batch over a sink that takes everything: if the sink at hand takes the
first `k` rows of that run and not the one behind them, the batch fails if and only if there is such
a row. It then wrote exactly the first `k` rows and looked at no bid behind the one of that row, and
the ledger is that of the other run when the row went out: its bid counts as seen, or as the top
bid, so that the row is not asked for again while the slot is remembered. After a crash whatever
needs the ledger fails and changes nothing.

However often a recorder is used on after failures, its figures of rows come to the number of writes
that it asked for.
-/
theorem batch_of_failing_sink (sink : Sink σ ε) (hl : r.locked = false) (batch : List Bid) :
    (∃ healthy : Recorder (List Row),
      process (Sink.recording ε) batch { ledger := r.ledger, sink := [] } = (.ok (), healthy)
      ∧ ∀ k, sink.StopsAt healthy.sink k r.sink →
          ((∃ halt r', process sink batch r = (.error halt, r')) ↔ k < healthy.sink.length)
          ∧ ∀ halt r', process sink batch r = (.error halt, r') →
            ∃ before bid behind kind m, ∃ h h' : Recorder (List Row),
              batch = before ++ bid :: behind
              ∧ process (Sink.recording ε) before { ledger := r.ledger, sink := [] } = (.ok (), h)
              ∧ process (Sink.recording ε) (before ++ [bid]) { ledger := r.ledger, sink := [] }
                = (.ok (), h')
              ∧ h.sink.length ≤ k ∧ k < h'.sink.length ∧ healthy.sink[k]? = some ⟨kind, bid⟩
              ∧ sink.Takes (healthy.sink.take k) r.sink m
              ∧ Refuses sink ⟨kind, bid⟩ m r'.sink halt
              ∧ (∀ other, process sink (before ++ bid :: other) r = (.error halt, r'))
              ∧ r'.ledger = h.ledger.atWrite kind bid
              ∧ (kind = .all → r'.ledger.seen bid = true)
              ∧ (kind = .top → r'.ledger.top? bid.slot = some bid)
              ∧ (∀ requests, (∀ asked, asked <+: requests →
                    bid.slot ∈ (after sink r' asked).ledger.slots) →
                  ∃ again : Recorder (List Row),
                    process (Sink.recording ε) [bid]
                        { ledger := (after sink r' requests).ledger, sink := [] }
                      = (.ok (), again)
                    ∧ ⟨kind, bid⟩ ∉ again.sink)
              ∧ r'.locked = halt.isCrash
              ∧ (halt = .crashed → ∀ requests, Shut sink (after sink r' requests)))
    ∧ ∀ (s : σ) (requests : List Request),
        (after sink.logged { sink := (s, []) } requests).sink.2.countP Sink.Entry.isWrite
            = (after sink.logged { sink := (s, []) } requests).ledger.unique
              + (after sink.logged { sink := (s, []) } requests).ledger.topped
        ∧ ∀ stats, (after sink.logged { sink := (s, []) } requests).stats (ε := ε) = .ok stats →
            (after sink.logged { sink := (s, []) } requests).sink.2.countP Sink.Entry.isWrite
              = stats.unique + stats.topped := by
  refine ⟨⟨_, process_recording r.ledger batch, fun k hk => ⟨⟨?_, ?_⟩, ?_⟩⟩, fun s requests => ?_⟩
  · rintro ⟨halt, r', hr⟩
    obtain ⟨_, _, _, _, _, _, _, _, hat, _⟩ := process_error_of_stopsAt hl hk hr
    exact (List.getElem?_eq_some_iff.mp hat).1
  · intro hlt
    cases hp : process sink batch r with
    | mk result r' =>
        cases result with
        | error halt => exact ⟨halt, r', rfl⟩
        | ok u =>
            -- the sink would have taken the row that it does not take
            rw [process_eq_takeAll hl] at hp
            obtain ⟨s', ht, _⟩ := takeAll_ok_iff.mp hp
            exact absurd ht (hk.not_takes hlt)
  · intro halt r' hr
    obtain ⟨before, bid, behind, row, m, hbatch, hle, hlt, hat, hrow, ht, hrefused, hledger,
      hlocked, hother⟩ := process_error_of_stopsAt hl hk hr
    obtain ⟨kind, b⟩ := row
    obtain rfl : b = bid := Ledger.bid_of_mem_rowsFor hrow
    refine ⟨before, b, behind, kind, m, _, _, hbatch, process_recording r.ledger before,
      process_recording r.ledger (before ++ [b]), hle, hlt, hat, ht, hrefused, hother, hledger, ?_,
      ?_, fun requests hs => ?_, hlocked, ?_⟩
    · rintro rfl
      rw [hledger]
      exact Ledger.seen_atWrite hrow
    · rintro rfl
      rw [hledger]
      exact Ledger.top?_atWrite _ b
    · have hsettled : (⟨kind, b⟩ : Row) ∉ r'.ledger.rowsFor b := by
        rw [hledger]
        exact Ledger.not_mem_rowsFor_atWrite hrow
      refine ⟨_, process_recording _ [b], ?_⟩
      rw [Ledger.rowsForAll, Ledger.rowsForAll, List.append_nil]
      exact not_mem_rowsFor_after ⟨kind, b⟩ requests hs hsettled
    · rintro rfl requests
      exact shut_after hlocked requests
  · have hcount := Counted.after (q := { sink := (s, []) }) rfl sink requests
    refine ⟨hcount, fun stats hstats => ?_⟩
    unfold Recorder.stats at hstats
    split at hstats
    · exact absurd hstats (by simp)
    · rw [← Except.ok.inj hstats]
      exact hcount

/-- A sink with room for so many rows, and the verdict on any more. -/
def roomFor (room : Nat) (verdict : Verdict ε) : Sink (List Row) ε where
  write row rows := if rows.length < room then (.written, rows ++ [row]) else (verdict, rows)
  flush rows := (.ok (), rows)

/-- A bid and a higher one, which come to four rows. -/
def risingPair : List Bid := [Bid.plain ⟨7⟩ 5, Bid.plain ⟨7⟩ 9]

/-- The last of the four rows has no room: the higher bid is the top bid, and its row is nowhere. -/
theorem batch_of_full_sink : ({ sink := [] } : Recorder (List Row)).locked = false
    ∧ ∃ healthy : Recorder (List Row),
        process (Sink.recording Unit) risingPair { sink := [] } = (.ok (), healthy)
          ∧ (roomFor 3 (.failed ())).StopsAt healthy.sink 3 []
          ∧ ∃ halt r', process (roomFor 3 (.failed ())) risingPair { sink := [] }
                = (.error halt, r')
              ∧ r'.ledger.top? ⟨7⟩ = some (Bid.plain ⟨7⟩ 9) ∧ r'.sink = healthy.sink.take 3 := by
  obtain ⟨⟨healthy, hh, hstops⟩, _⟩ := batch_of_failing_sink (r := { sink := [] })
    (roomFor 3 (.failed ())) rfl risingPair
  have hrows : healthy.sink = [⟨.all, Bid.plain ⟨7⟩ 5⟩, ⟨.top, Bid.plain ⟨7⟩ 5⟩,
      ⟨.all, Bid.plain ⟨7⟩ 9⟩, ⟨.top, Bid.plain ⟨7⟩ 9⟩] := by
    rw [← (Prod.mk.inj hh).2]
    decide +kernel
  have htaken : (roomFor 3 (.failed ())).Takes (healthy.sink.take 3) [] (healthy.sink.take 3) := by
    rw [hrows]
    exact ⟨_, rfl, _, rfl, _, rfl, rfl⟩
  have hfull : ∀ row, (roomFor 3 (.failed ())).write row (healthy.sink.take 3)
      = (.failed (), healthy.sink.take 3) := by
    rw [hrows]
    exact fun row => rfl
  have hthree : (roomFor 3 (.failed ())).StopsAt healthy.sink 3 [] :=
    ⟨_, htaken, fun row _ => by rw [hfull]; simp⟩
  obtain ⟨hiff, hends⟩ := hstops 3 hthree
  obtain ⟨halt, r', hr⟩ := hiff.mpr (by rw [hrows]; decide)
  obtain ⟨_, bid, _, kind, m, _, _, _, _, _, _, _, hat, ht, hrefused, _, _, _, htop, _⟩ :=
    hends halt r' hr
  obtain ⟨rfl, rfl⟩ := Row.mk.inj (Option.some.inj ((congrArg (·[3]?) hrows).symm.trans hat))
  obtain rfl := ht.unique htaken
  refine ⟨rfl, healthy, hh, hthree, halt, r', hr, htop rfl, ?_⟩
  rcases hrefused with ⟨_, hw, _⟩ | ⟨hw, _⟩
  all_goals exact (Prod.mk.inj (hw.symm.trans (hfull _))).2

end Recorder

end BidArchive
