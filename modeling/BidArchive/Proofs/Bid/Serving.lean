import BidArchive.Proofs.Bid.Memory

/-!
# Runs of a recorder

Callers hand a recorder batches and ask it for housekeeping. A batch is nothing but
its bids one after the other: a run of calls is a run of happenings, however the bids
were cut into batches, and it stops at the first that does not succeed.

As long as a run goes well the ledger digests its past and the sink has taken exactly
the rows that the past calls for (`undergo_ok`). Over a steady sink it always goes well
(`exists_moment`).
-/

namespace BidArchive

open Chain (Slot)
open History

variable {σ ε : Type} {sink : Sink σ ε}

/-! ## What a sink takes -/

namespace Sink

/-- The sink takes the rows one after the other, which brings it from one state to another. -/
def Takes (sink : Sink σ ε) : List Row → σ → σ → Prop
  | [], s, s' => s' = s
  | row :: rest, s, s' => ∃ m, sink.write row s = (.written, m) ∧ sink.Takes rest m s'

/-- The sink takes every row in every state. -/
def Steady (sink : Sink σ ε) : Prop := ∀ row s, ∃ s', sink.write row s = (.written, s')

theorem takes_append {p q : List Row} {s s' : σ} :
    sink.Takes (p ++ q) s s' ↔ ∃ m, sink.Takes p s m ∧ sink.Takes q m s' := by
  induction p generalizing s with
  | nil =>
      constructor
      · exact fun h => ⟨s, rfl, h⟩
      · rintro ⟨m, rfl, h⟩; exact h
  | cons row p ih =>
      constructor
      · rintro ⟨m, hm, h⟩
        obtain ⟨n, hp, hq⟩ := ih.mp h
        exact ⟨n, ⟨m, hm, hp⟩, hq⟩
      · rintro ⟨n, ⟨m, hm, hp⟩, hq⟩
        exact ⟨m, hm, ih.mpr ⟨n, hp, hq⟩⟩

/-- What a sink comes to by taking rows is settled by the rows. -/
theorem Takes.unique {rows : List Row} {s a b : σ} (ha : sink.Takes rows s a)
    (hb : sink.Takes rows s b) : a = b := by
  induction rows generalizing s with
  | nil => exact ha.trans hb.symm
  | cons row rest ih =>
      obtain ⟨m, hm, ha⟩ := ha
      obtain ⟨n, hn, hb⟩ := hb
      obtain rfl : m = n := (Prod.mk.inj (hm.symm.trans hn)).2
      exact ih ha hb

theorem takes_singleton {row : Row} {s s' : σ} :
    sink.Takes [row] s s' ↔ sink.write row s = (.written, s') := by
  constructor
  · rintro ⟨m, hm, rfl⟩; exact hm
  · exact fun h => ⟨s', h, rfl⟩

theorem Steady.exists_takes (h : sink.Steady) (rows : List Row) (s : σ) :
    ∃ s', sink.Takes rows s s' := by
  induction rows generalizing s with
  | nil => exact ⟨s, rfl⟩
  | cons row rest ih =>
      obtain ⟨m, hm⟩ := h row s
      obtain ⟨s', hs'⟩ := ih m
      exact ⟨s', m, hm, hs'⟩

/-- What was written into the recording sink is what it was asked to take. -/
theorem takes_recording {rows written written' : List Row} :
    (recording ε).Takes rows written written' ↔ written' = written ++ rows := by
  induction rows generalizing written with
  | nil => rw [List.append_nil]; exact Iff.rfl
  | cons row rest ih =>
      constructor
      · rintro ⟨m, hm, h⟩
        obtain ⟨_, rfl⟩ := Prod.mk.inj hm
        rw [ih.mp h, List.append_assoc]
        rfl
      · intro h
        exact ⟨written ++ [row], rfl, ih.mpr (by rw [h, List.append_assoc]; rfl)⟩

theorem steady_recording : (recording ε).Steady := fun row written => ⟨written ++ [row], rfl⟩

/-- What was asked of a sink, with its answer. -/
inductive Entry (ε : Type)
  | write (row : Row) (verdict : Verdict ε)
  | flush (result : Except ε Unit)

/-- The sink with a log of all that is asked of it. -/
def logged (sink : Sink σ ε) : Sink (σ × List (Entry ε)) ε where
  write row s :=
    let (verdict, state) := sink.write row s.1
    (verdict, state, s.2 ++ [.write row verdict])
  flush s :=
    let (result, state) := sink.flush s.1
    (result, state, s.2 ++ [.flush result])

/-- Rows that are taken are logged as written. -/
theorem log_of_takes {rows : List Row} {s s' : σ × List (Entry ε)}
    (h : sink.logged.Takes rows s s') : s'.2 = s.2 ++ rows.map (Entry.write · .written) := by
  induction rows generalizing s with
  | nil => rw [h]; exact (List.append_nil _).symm
  | cons row rest ih =>
      obtain ⟨m, hm, h⟩ := h
      obtain ⟨hv, rfl⟩ := Prod.mk.inj hm
      rw [ih h, hv, List.append_assoc]
      rfl

theorem log_of_flush {s s' : σ × List (Entry ε)} {result : Except ε Unit}
    (h : sink.logged.flush s = (result, s')) : s'.2 = s.2 ++ [.flush result] := by
  obtain ⟨hr, rfl⟩ := Prod.mk.inj h
  rw [← hr]

end Sink

namespace Recorder

variable {r r' : Recorder σ} {bid : Bid} {halt : Halt (RecorderFault ε)}

/-! ## Taking a bid -/

theorem write_ok_iff {row : Row} : write sink row r = (.ok (), r')
    ↔ ∃ s', sink.write row r.sink = (.written, s') ∧ r' = { r with sink := s' } := by
  unfold write
  cases hw : sink.write row r.sink with
  | mk verdict s' =>
      cases verdict with
      | written =>
          constructor
          · intro h; exact ⟨s', rfl, (Prod.mk.inj h).2.symm⟩
          · rintro ⟨m, hm, rfl⟩; rw [(Prod.mk.inj hm).2]
      | failed cause =>
          constructor
          · intro h; exact absurd (Prod.mk.inj h).1 (by simp)
          · rintro ⟨m, hm, _⟩; exact Verdict.noConfusion rfl (heq_of_eq (Prod.mk.inj hm).1)
      | crashed =>
          constructor
          · intro h; exact absurd (Prod.mk.inj h).1 (by simp)
          · rintro ⟨m, hm, _⟩; exact Verdict.noConfusion rfl (heq_of_eq (Prod.mk.inj hm).1)

/-- The sink does not take the row, which halts whoever asked for it. -/
def Refuses (sink : Sink σ ε) (row : Row) (s s' : σ) (halt : Halt (RecorderFault ε)) : Prop :=
  (∃ cause, sink.write row s = (.failed cause, s') ∧ halt = .failed (.sink cause))
    ∨ sink.write row s = (.crashed, s') ∧ halt = .crashed

theorem refuses_of_write {row : Row} (h : write sink row r = (.error halt, r')) :
    Refuses sink row r.sink r'.sink halt := by
  unfold write at h
  cases hw : sink.write row r.sink with
  | mk verdict s' =>
      rw [hw] at h
      cases verdict with
      | written => exact absurd (Prod.mk.inj h).1 (by simp)
      | failed cause =>
          obtain ⟨hh, rfl⟩ := Prod.mk.inj h
          exact Or.inl ⟨cause, hw, (Except.error.inj hh).symm⟩
      | crashed =>
          obtain ⟨hh, rfl⟩ := Prod.mk.inj h
          exact Or.inr ⟨hw, (Except.error.inj hh).symm⟩

theorem takeNew_ok_iff : takeNew sink bid { r with ledger := r.ledger.arrive bid } = (.ok (), r')
    ↔ ∃ s', sink.Takes (if (r.ledger.arrive bid).seen bid then [] else [⟨.all, bid⟩]) r.sink s'
        ∧ r' = { r with ledger := r.ledger.noted bid, sink := s' } := by
  unfold takeNew Ledger.noted
  dsimp only
  split
  · constructor
    · intro h; exact ⟨r.sink, rfl, (Prod.mk.inj h).2.symm⟩
    · rintro ⟨s', rfl, rfl⟩; rfl
  · rw [write_ok_iff]
    simp only [Sink.takes_singleton]

theorem takeTop_ok_iff : takeTop sink bid r = (.ok (), r')
    ↔ ∃ s', sink.Takes (if r.ledger.leads bid then [⟨.top, bid⟩] else []) r.sink s'
        ∧ r' = { r with
            ledger := if r.ledger.leads bid then r.ledger.crown bid else r.ledger
            sink := s' } := by
  unfold takeTop
  split
  · rw [write_ok_iff]
    simp only [Sink.takes_singleton]
  · constructor
    · intro h; exact ⟨r.sink, rfl, (Prod.mk.inj h).2.symm⟩
    · rintro ⟨s', rfl, rfl⟩; rfl

/-- The rows of a bid, as they are decided on one after the other. -/
theorem rowsFor_eq (r : Recorder σ) (bid : Bid) : r.ledger.rowsFor bid
    = (if (r.ledger.arrive bid).seen bid then [] else [⟨.all, bid⟩])
      ++ if (r.ledger.noted bid).leads bid then [⟨.top, bid⟩] else [] := by
  rw [Ledger.seen_arrive, Ledger.leads_noted]
  rfl

/-- **A bid is taken if and only if the sink takes its rows.** -/
theorem take_ok_iff : take sink bid r = (.ok (), r')
    ↔ ∃ s', sink.Takes (r.ledger.rowsFor bid) r.sink s'
        ∧ r' = { r with ledger := r.ledger.taken bid, sink := s' } := by
  unfold take
  rw [rowsFor_eq]
  constructor
  · intro h
    split at h
    · rename_i r₁ h₁
      obtain ⟨m, hm, rfl⟩ := takeNew_ok_iff.mp h₁
      obtain ⟨s', hs', hr'⟩ := takeTop_ok_iff.mp h
      exact ⟨s', Sink.takes_append.mpr ⟨m, hm, hs'⟩, hr'⟩
    · exact absurd (Prod.mk.inj h).1 (by simp)
  · rintro ⟨s', hs', hr'⟩
    obtain ⟨m, hm, htop⟩ := Sink.takes_append.mp hs'
    rw [takeNew_ok_iff.mpr ⟨m, hm, rfl⟩]
    exact takeTop_ok_iff.mpr ⟨s', htop, hr'⟩

/-- **A bid that is not taken** stops at the first of its rows that the sink refuses, with the
ledger as it stood when that row was decided on. -/
theorem take_error (h : take sink bid r = (.error halt, r')) :
    ∃ done row later m, r.ledger.rowsFor bid = done ++ row :: later ∧ sink.Takes done r.sink m
      ∧ write sink row { r with ledger := r.ledger.atWrite row.kind bid, sink := m }
        = (.error halt, r') := by
  have hrows := rowsFor_eq r bid
  unfold take at h
  split at h
  · -- the first row, if there was one, is in the sink: it was the top row that failed
    rename_i r₁ h₁
    obtain ⟨m, hm, rfl⟩ := takeNew_ok_iff.mp h₁
    unfold takeTop at h
    split at h
    · rename_i hl
      refine ⟨_, ⟨.top, bid⟩, [], m, ?_, hm, h⟩
      rw [hrows, if_pos hl]
    · exact absurd (Prod.mk.inj h).1 (by simp)
  · rename_i f r₁ h₁
    obtain ⟨hf, rfl⟩ := Prod.mk.inj h
    obtain rfl := Except.error.inj hf
    unfold takeNew at h₁
    split at h₁
    · exact absurd (Prod.mk.inj h₁).1 (by simp)
    · rename_i hs
      refine ⟨[], ⟨.all, bid⟩, if (r.ledger.noted bid).leads bid then [⟨.top, bid⟩] else [],
        r.sink, ?_, rfl, h₁⟩
      rw [hrows, if_neg hs]
      rfl

/-- A flush that succeeds is logged as the last that was asked of the sink. -/
theorem log_of_shutdown {r r' : Recorder (σ × List (Sink.Entry ε))}
    (h : r.shutdown sink.logged = (.ok (), r')) : r'.sink.2 = r.sink.2 ++ [.flush (.ok ())] := by
  unfold shutdown at h
  split at h
  · rename_i hf
    rw [← (Prod.mk.inj h).2]
    exact Sink.log_of_flush hf
  · exact absurd (Prod.mk.inj h).1 (by simp)

/-! ## Happenings and calls -/

/-- Goes through one happening. -/
def meet (sink : Sink σ ε) (r : Recorder σ) :
    Happening → Except (Halt (RecorderFault ε)) Unit × Recorder σ
  | .arrival bid => take sink bid r
  | .housekeeping current =>
    match housekeep current r with
    | (.ok _, r) => (.ok (), r)
    | (.error halt, r) => (.error halt, r)

/-- Goes through happenings up to the first that does not succeed. -/
def undergo (sink : Sink σ ε) (r : Recorder σ) :
    List Happening → Except (Halt (RecorderFault ε)) Unit × Recorder σ
  | [] => (.ok (), r)
  | h :: rest =>
    match meet sink r h with
    | (.ok (), r) => undergo sink r rest
    | (.error halt, r) => (.error halt, r)

/-- What is asked of a recorder. -/
inductive Call
  | process (batch : List Bid)
  | housekeep (current : Slot)
deriving DecidableEq, Repr

/-- A batch is its bids, one after the other. -/
def Call.happenings : Call → List Happening
  | .process batch => batch.map .arrival
  | .housekeep current => [.housekeeping current]

/-- Answers a call. -/
def answer (sink : Sink σ ε) (r : Recorder σ) :
    Call → Except (Halt (RecorderFault ε)) Unit × Recorder σ
  | .process batch => r.process sink batch
  | .housekeep current => meet sink r (.housekeeping current)

/-- Answers calls up to the first that does not succeed. -/
def serve (sink : Sink σ ε) (r : Recorder σ) :
    List Call → Except (Halt (RecorderFault ε)) Unit × Recorder σ
  | [] => (.ok (), r)
  | call :: rest =>
    match answer sink r call with
    | (.ok (), r) => serve sink r rest
    | (.error halt, r) => (.error halt, r)

theorem undergo_append (p q : List Happening) : undergo sink r (p ++ q) =
    match undergo sink r p with
    | (.ok (), r) => undergo sink r q
    | (.error halt, r) => (.error halt, r) := by
  induction p generalizing r with
  | nil => rfl
  | cons h p ih =>
      rw [List.cons_append, undergo, undergo]
      split
      · exact ih
      · rfl

theorem serve_append (p q : List Call) : serve sink r (p ++ q) =
    match serve sink r p with
    | (.ok (), r) => serve sink r q
    | (.error halt, r) => (.error halt, r) := by
  induction p generalizing r with
  | nil => rfl
  | cons call p ih =>
      rw [List.cons_append, serve, serve]
      split
      · exact ih
      · rfl

theorem takeAll_eq_undergo (batch : List Bid) :
    takeAll sink r batch = undergo sink r (batch.map .arrival) := by
  induction batch generalizing r with
  | nil => rfl
  | cons bid rest ih =>
      rw [takeAll, List.map_cons, undergo,
        show meet sink r (.arrival bid) = take sink bid r from rfl]
      cases take sink bid r with
      | mk result r' =>
          cases result with
          | ok u => exact ih
          | error halt => rfl

/-- **One happening that goes well**: the ledger keeps digesting the past, and the sink takes the
rows that the past calls for. -/
theorem meet_ok {past : List Happening} {h : Happening} (hm : Mirrors past r.ledger)
    (hr : meet sink r h = (.ok (), r')) :
    Mirrors (past ++ [h]) r'.ledger ∧ r'.locked = r.locked
      ∧ sink.Takes (rowsAt past h) r.sink r'.sink := by
  cases h with
  | arrival bid =>
      obtain ⟨s', hs', rfl⟩ := take_ok_iff.mp hr
      rw [hm.rowsFor_eq] at hs'
      exact ⟨hm.taken bid, rfl, hs'⟩
  | housekeeping current =>
      unfold meet housekeep at hr
      dsimp only at hr
      cases ho : current.earlier? slotsKept with
      | none => rw [ho] at hr; exact absurd (Prod.mk.inj hr).1 (by simp)
      | some oldest =>
          rw [ho] at hr
          dsimp only at hr
          split at hr
          · rename_i hs
            split at hs
            · exact absurd (Prod.mk.inj hs).1 (by simp)
            · obtain ⟨_, rfl⟩ := Prod.mk.inj hs
              obtain ⟨_, rfl⟩ := Prod.mk.inj hr
              exact ⟨hm.forget ho, rfl, rfl⟩
          · exact absurd (Prod.mk.inj hr).1 (by simp)

/-- **A run that goes well.** -/
theorem undergo_ok {past later : List Happening} (hm : Mirrors past r.ledger)
    (hr : undergo sink r later = (.ok (), r')) :
    Mirrors (past ++ later) r'.ledger ∧ r'.locked = r.locked
      ∧ sink.Takes (rowsFrom past later) r.sink r'.sink := by
  induction later generalizing past r with
  | nil =>
      obtain ⟨_, rfl⟩ := Prod.mk.inj hr
      rw [List.append_nil]
      exact ⟨hm, rfl, rfl⟩
  | cons h rest ih =>
      rw [undergo] at hr
      split at hr
      · rename_i r₁ h₁
        obtain ⟨hm₁, hl₁, ht₁⟩ := meet_ok hm h₁
        obtain ⟨hm₂, hl₂, ht₂⟩ := ih hm₁ hr
        rw [List.append_assoc, List.singleton_append] at hm₂
        exact ⟨hm₂, hl₂.trans hl₁, Sink.takes_append.mpr ⟨_, ht₁, ht₂⟩⟩
      · exact absurd (Prod.mk.inj hr).1 (by simp)

/-- Answering a call is going through its happenings. -/
theorem answer_eq_undergo (hl : r.locked = false) (call : Call) :
    answer sink r call = undergo sink r call.happenings := by
  cases call with
  | process batch =>
      unfold answer process
      rw [hl]
      exact takeAll_eq_undergo batch
  | housekeep current =>
      show meet sink r (.housekeeping current) = undergo sink r [.housekeeping current]
      rw [undergo]
      cases meet sink r (.housekeeping current) with
      | mk result r' =>
          cases result with
          | ok u => rfl
          | error halt => rfl

/-- **A run of calls is a run of happenings**, however the bids were cut into batches. -/
theorem serve_eq_undergo {past : List Happening} (hm : Mirrors past r.ledger)
    (hl : r.locked = false) (calls : List Call) :
    serve sink r calls = undergo sink r (calls.flatMap Call.happenings) := by
  -- `past` is there for the invariant only: a recorder that mirrors some past stays unlocked
  induction calls generalizing past r with
  | nil => rfl
  | cons call rest ih =>
      rw [serve, List.flatMap_cons, undergo_append, answer_eq_undergo hl]
      split
      · rename_i r₁ h₁
        obtain ⟨hm₁, hl₁, _⟩ := undergo_ok hm h₁
        exact ih hm₁ (hl₁.trans hl)
      · rfl

/-! ## Runs over a steady sink -/

/-- The slot that a call makes the current one. -/
def Call.current? : Call → Option Slot
  | .process _ => none
  | .housekeep current => some current

/-- The slots from which on bids are kept can be told. -/
def Fits (calls : List Call) : Prop :=
  ∀ current, .housekeep current ∈ calls → (current.earlier? slotsKept).isSome

theorem fits_iff {calls : List Call} :
    Fits calls ↔ ∀ current ∈ calls.filterMap Call.current?,
      (current.earlier? slotsKept).isSome := by
  refine forall_congr' fun current => imp_congr_left ?_
  rw [List.mem_filterMap]
  constructor
  · exact fun h => ⟨_, h, rfl⟩
  · rintro ⟨call, hcall, hcurrent⟩
    cases call with
    | process batch => exact absurd hcurrent (by simp [Call.current?])
    | housekeep c => exact Option.some.inj hcurrent ▸ hcall

instance (calls : List Call) : Decidable (Fits calls) := decidable_of_iff _ fits_iff.symm

theorem undergo_steady (hs : sink.Steady) {past later : List Happening}
    (hm : Mirrors past r.ledger) (hl : r.locked = false)
    (hf : ∀ current, .housekeeping current ∈ later → (current.earlier? slotsKept).isSome) :
    ∃ r', undergo sink r later = (.ok (), r') := by
  induction later generalizing past r with
  | nil => exact ⟨r, rfl⟩
  | cons h rest ih =>
      -- a bid is taken since the sink is steady, housekeeping done since its horizon fits
      have hone : ∃ r₁, meet sink r h = (.ok (), r₁) := by
        cases h with
        | arrival bid =>
            obtain ⟨s', hs'⟩ := hs.exists_takes (r.ledger.rowsFor bid) r.sink
            exact ⟨_, take_ok_iff.mpr ⟨s', hs', rfl⟩⟩
        | housekeeping current =>
            obtain ⟨oldest, ho⟩ := Option.isSome_iff_exists.mp (hf current List.mem_cons_self)
            refine ⟨{ r with ledger := r.ledger.forget oldest }, ?_⟩
            unfold meet housekeep
            simp [ho, hl]
      obtain ⟨r₁, h₁⟩ := hone
      obtain ⟨hm₁, hl₁, _⟩ := meet_ok hm h₁
      obtain ⟨r', hr'⟩ := ih hm₁ (hl₁.trans hl)
        (fun current hc => hf current (List.mem_cons_of_mem _ hc))
      exact ⟨r', by rw [undergo, h₁]; exact hr'⟩

/-- A moment of a run of calls, also one within a batch: `past` has happened, `rest` is to come, and
the recorder stands at `r`. -/
structure Moment (sink : Sink σ ε) (s : σ) (calls : List Call) (past rest : List Happening)
    (r : Recorder σ) : Prop where
  /-- The run has come this far. -/
  came : undergo sink { sink := s } past = (.ok (), r)
  /-- The run goes on from here. -/
  goes : serve sink { sink := s } calls = undergo sink r rest

variable {s : σ} {calls : List Call} {past rest : List Happening}

theorem Moment.facts (h : Moment sink s calls past rest r) :
    Mirrors past r.ledger ∧ r.locked = false ∧ sink.Takes (rows past) s r.sink := by
  have hu := undergo_ok Mirrors.init h.came
  exact hu

/-- **Every moment of a run over a steady sink comes.** -/
theorem exists_moment (hs : sink.Steady) (hf : Fits calls) (s : σ)
    (hp : calls.flatMap Call.happenings = past ++ rest) :
    ∃ r, Moment sink s calls past rest r := by
  have hfits : ∀ current, .housekeeping current ∈ past → (current.earlier? slotsKept).isSome := by
    intro current hc
    have hmem : .housekeeping current ∈ calls.flatMap Call.happenings := by
      rw [hp]; exact List.mem_append_left _ hc
    obtain ⟨call, hcall, hh⟩ := List.mem_flatMap.mp hmem
    cases call with
    | process batch =>
        obtain ⟨b, _, hb⟩ := List.mem_map.mp hh
        exact Happening.noConfusion hb
    | housekeep c =>
        rw [Happening.housekeeping.inj (List.mem_singleton.mp hh)]
        exact hf c hcall
  obtain ⟨r, hr⟩ := undergo_steady (r := { sink := s }) hs Mirrors.init rfl hfits
  refine ⟨r, hr, ?_⟩
  rw [serve_eq_undergo (r := { sink := s }) Mirrors.init rfl, hp, undergo_append, hr]

end Recorder

end BidArchive
