import BidArchive.Proofs.Bid.Lateness

/-!
# The order of arrival

The bids of several sources reach a recorder in whatever order they happen to, and cut
into batches in whatever way. Which of the bids of one key is written depends on that,
and so does how often the top bid changes hands on the way. What is known in the end
does not: it can be told from the bids that arrived, whatever their order
(`Outcome`). So two runs with the same bids end with the same keys, slots, figures and
highest values (`outcome_of_perm`).
-/

namespace BidArchive

open Chain (Slot)

variable {bid top : Bid} {bids bids' : List Bid} {slot : Slot}

/-! ## Highest bids -/

/-- Where there are bids, there is a first highest one. -/
theorem exists_highest (h : bids ≠ []) : ∃ top, Highest top bids := by
  induction bids using List.reverseRecOn with
  | nil => exact absurd rfl h
  | append_singleton bids bid ih =>
      by_cases hlt : ∀ b ∈ bids, b.value < bid.value
      · exact ⟨bid, .of_forall_lt hlt⟩
      · -- there is a bid that is not below, so there is a highest one before
        have hne : bids ≠ [] := by
          rintro rfl
          exact hlt fun b hb => absurd hb List.not_mem_nil
        obtain ⟨top, hhigh⟩ := ih hne
        exact ⟨top, hhigh.append fun hbelow => hlt (hhigh.forall_lt_iff.mpr hbelow)⟩

/-- A bid that is not above all before it does not change which is the first highest. -/
theorem highest_append_iff (h : ¬ ∀ b ∈ bids, b.value < bid.value) :
    Highest top (bids ++ [bid]) ↔ Highest top bids := by
  have hkeeps : ∀ {t}, Highest t bids → Highest t (bids ++ [bid]) := by
    intro t ht
    exact ht.append fun hbelow => h (ht.forall_lt_iff.mpr hbelow)
  constructor
  · intro htop
    have hne : bids ≠ [] := by
      rintro rfl
      exact h fun b hb => absurd hb List.not_mem_nil
    obtain ⟨t, ht⟩ := exists_highest hne
    rw [htop.unique (hkeeps ht)]
    exact ht
  · exact hkeeps

/-- In whatever order bids come, their highest value is the same. -/
theorem Highest.value_eq_of_perm {a b : Bid} (ha : Highest a bids) (hb : Highest b bids')
    (hp : bids.Perm bids') : a.value = b.value := by
  have hab := hb.le (hp.mem_iff.mp ha.mem)
  have hba := ha.le (hp.mem_iff.mpr hb.mem)
  exact BitVec.le_antisymm hab hba

/-- So is the value of the first highest of them, if there is any. -/
theorem map_value_eq_of_perm {x y : Option Bid} (hx : ∀ t, x = some t ↔ Highest t bids)
    (hy : ∀ t, y = some t ↔ Highest t bids') (hp : bids.Perm bids') :
    x.map (·.value) = y.map (·.value) := by
  cases bids with
  | nil =>
      have hempty : ∀ {z : Option Bid}, (∀ t, z = some t ↔ Highest t []) → z = none := by
        intro z hz
        refine Option.eq_none_iff_forall_ne_some.mpr fun t ht => ?_
        exact absurd ((hz t).mp ht).mem List.not_mem_nil
      rw [hp.symm.eq_nil] at hy
      rw [hempty hx, hempty hy]
  | cons bid rest =>
      obtain ⟨a, ha⟩ := exists_highest (List.cons_ne_nil bid rest)
      obtain ⟨b, hb⟩ := exists_highest (List.ne_nil_of_mem (hp.mem_iff.mp ha.mem))
      rw [(hx a).mpr ha, (hy b).mpr hb, Option.map_some, Option.map_some]
      exact congrArg some (ha.value_eq_of_perm hb hp)

/-- Slots in ascending order are settled by which they are. -/
theorem eq_of_ascending {slots slots' : List Slot} (h : slots.Pairwise (· < ·))
    (h' : slots'.Pairwise (· < ·)) (hm : ∀ slot, slot ∈ slots ↔ slot ∈ slots') :
    slots = slots' := by
  have hne : ∀ {a b : Slot}, a < b → a ≠ b := by
    intro a b hlt heq
    rw [heq, Slot.lt_iff] at hlt
    exact Int.lt_irrefl _ hlt
  have hp := (List.perm_ext_iff_of_nodup (h.imp hne) (h'.imp hne)).mpr hm
  refine hp.eq_of_pairwise (fun a b _ _ hab hba => ?_) h h'
  rw [Slot.lt_iff] at hab hba
  omega

namespace History

/-! ## The rows of bids that came one after the other -/

/-- Bids as they arrive, with nothing in between. -/
def arriving (bids : List Bid) : List Happening := bids.map .arrival

theorem arriving_append_singleton :
    arriving (bids ++ [bid]) = arriving bids ++ [.arrival bid] := List.map_append

theorem arrivals_arriving : arrivals (arriving bids) = bids := by
  unfold arrivals arriving
  rw [List.filterMap_map]
  exact List.filterMap_some

theorem not_evicts_of_mem_arriving {e : Happening} (he : e ∈ arriving bids) :
    e.evicts slot = false := by
  obtain ⟨bid, _, rfl⟩ := List.mem_map.mp he
  rfl

theorem bidsOf_arriving : bidsOf slot (arriving bids) = bids.filter (·.slot = slot) := by
  rw [bidsOf_of_not_evicts fun e he => not_evicts_of_mem_arriving he, arrivals_arriving]

/-- The keys of the rows of new bids. -/
def newKeys (rows : List Row) : List String :=
  (rows.filter fun row => row.kind = .all).map (·.bid.key)

theorem newKeys_append (p q : List Row) : newKeys (p ++ q) = newKeys p ++ newKeys q := by
  unfold newKeys
  rw [List.filter_append, List.map_append]

theorem length_newKeys (rows : List Row) :
    (newKeys rows).length = rows.countP fun row => row.kind = .all := by
  unfold newKeys
  rw [List.length_map, List.countP_eq_length_filter]

theorem newKeys_rowsOn (past : List Happening) :
    newKeys (rowsOn past bid) = if IsNew past bid then [bid.key] else [] := by
  unfold newKeys
  rw [Recorder.filter_all_rowsOn]
  split <;> rfl

theorem isNew_arriving_iff : IsNew (arriving bids) bid ↔ bid.key ∉ bids.map Bid.key := by
  rw [isNew_iff, bidsOf_arriving]
  constructor
  · intro hnew hmem
    obtain ⟨b, hb, hk⟩ := List.mem_map.mp hmem
    have hslot := Bid.slot_eq_of_key_eq hk
    exact hnew b (List.mem_filter.mpr ⟨hb, decide_eq_true hslot⟩) hk
  · intro hout b hb hk
    exact hout (List.mem_map.mpr ⟨b, (List.mem_filter.mp hb).1, hk⟩)

/-- **Every key is written once**, and no other. -/
theorem newKeys_arriving (bids : List Bid) : (newKeys (rows (arriving bids))).Nodup
    ∧ ∀ key, key ∈ newKeys (rows (arriving bids)) ↔ key ∈ bids.map Bid.key := by
  induction bids using List.reverseRecOn with
  | nil => exact ⟨List.nodup_nil, fun key => Iff.rfl⟩
  | append_singleton bids bid ih =>
      obtain ⟨hnodup, hmem⟩ := ih
      rw [arriving_append_singleton, Mirrors.rows_arrival, newKeys_append, newKeys_rowsOn]
      by_cases hn : IsNew (arriving bids) bid
      · have hout : bid.key ∉ newKeys (rows (arriving bids)) := fun hk =>
          isNew_arriving_iff.mp hn ((hmem bid.key).mp hk)
        rw [if_pos hn]
        refine ⟨?_, fun key => ?_⟩
        · refine List.nodup_append.mpr ⟨hnodup, List.pairwise_singleton _ _, fun k hk k' hk' => ?_⟩
          rw [List.mem_singleton.mp hk']
          rintro rfl
          exact hout hk
        · rw [List.map_append, List.mem_append, List.mem_append, hmem]
          rfl
      · have hin : bid.key ∈ bids.map Bid.key := by
          by_contra hout
          exact hn (isNew_arriving_iff.mpr hout)
        rw [if_neg hn, List.append_nil]
        refine ⟨hnodup, fun key => ?_⟩
        rw [hmem, List.map_append, List.mem_append]
        constructor
        · exact Or.inl
        · rintro (hk | hk)
          · exact hk
          · rw [List.mem_singleton.mp hk]
            exact hin

/-- The bid of the last top row of a slot. -/
def lastTop (slot : Slot) (rows : List Row) : Option Bid :=
  (rows.filter (isTopOf slot)).getLast?.map (·.bid)

theorem lastTop_append_nil {p q : List Row} (h : q.filter (isTopOf slot) = []) :
    lastTop slot (p ++ q) = lastTop slot p := by
  unfold lastTop
  rw [List.filter_append, h, List.append_nil]

theorem lastTop_append_singleton {p q : List Row} {row : Row}
    (h : q.filter (isTopOf slot) = [row]) : lastTop slot (p ++ q) = some row.bid := by
  unfold lastTop
  rw [List.filter_append, h, List.getLast?_concat]
  rfl

theorem filter_isTopOf_rowsOn (past : List Happening) : (rowsOn past bid).filter (isTopOf slot)
    = if Leads past bid ∧ bid.slot = slot then [⟨.top, bid⟩] else [] := by
  unfold rowsOn isTopOf
  by_cases hn : IsNew past bid <;> by_cases hl : Leads past bid <;> by_cases hs : bid.slot = slot
    <;> simp [hn, hl, hs]

/-- **The last top row of a slot is that of the first of its highest bids.** -/
theorem lastTop_arriving_iff : lastTop slot (rows (arriving bids)) = some top
    ↔ Highest top (bids.filter (·.slot = slot)) := by
  induction bids using List.reverseRecOn generalizing top with
  | nil =>
      constructor
      · intro h; exact absurd h (by simp [lastTop, arriving, rows, rowsFrom])
      · intro h; exact absurd h.mem List.not_mem_nil
  | append_singleton bids bid ih =>
      rw [arriving_append_singleton, Mirrors.rows_arrival, List.filter_append]
      have hrows : (rowsOn (arriving bids) bid).filter (isTopOf slot) = _ :=
        filter_isTopOf_rowsOn (arriving bids)
      by_cases hs : bid.slot = slot
      · subst hs
        have hleads : Leads (arriving bids) bid
            ↔ ∀ b ∈ bids.filter (·.slot = bid.slot), b.value < bid.value := by
          unfold Leads
          rw [bidsOf_arriving]
        rw [show [bid].filter (·.slot = bid.slot) = [bid] by simp]
        by_cases hl : Leads (arriving bids) bid
        · rw [if_pos ⟨hl, rfl⟩] at hrows
          rw [lastTop_append_singleton hrows]
          have hhigh := Highest.of_forall_lt (hleads.mp hl)
          constructor
          · intro h
            exact Option.some.inj h ▸ hhigh
          · intro h
            rw [h.unique hhigh]
        · rw [if_neg fun h => hl h.1] at hrows
          rw [lastTop_append_nil hrows, ih, highest_append_iff fun h => hl (hleads.mpr h)]
      · rw [if_neg fun h => hs h.2] at hrows
        rw [lastTop_append_nil hrows, ih, show [bid].filter (·.slot = slot) = [] by simp [hs],
          List.append_nil]

end History

/-- Keeping a log makes no sink fail. -/
theorem Sink.Steady.logged {σ ε : Type} {sink : Sink σ ε} (h : sink.Steady) :
    sink.logged.Steady := by
  intro row s
  obtain ⟨s', hs'⟩ := h row s.1
  have hwrite : sink.logged.write row s = ((sink.write row s.1).1, (sink.write row s.1).2,
      s.2 ++ [.write row (sink.write row s.1).1]) := rfl
  rw [hwrite, hs']
  exact ⟨(s', s.2 ++ [.write row .written]), rfl⟩

namespace Recorder

open History

variable {σ σ' ε ε' : Type} {sink : Sink σ ε} {sink' : Sink σ' ε'}

/-! ## What is known in the end -/

/-- What a recorder knows of bids that it took, in whatever order they came. -/
structure Outcome (ε : Type) (r : Recorder σ) (rows : List Row) (bids : List Bid) : Prop where
  /-- No key is written twice. -/
  nodup : (newKeys rows).Nodup
  /-- The keys of the bids are written, and no others. -/
  mem_keys : ∀ key, key ∈ newKeys rows ↔ key ∈ bids.map Bid.key
  /-- Bids and keys are counted. -/
  stats : ∃ stats, r.stats (ε := ε) = .ok stats ∧ stats.received = bids.length
    ∧ stats.unique = (newKeys rows).length
  /-- The slots of the bids are remembered. -/
  slots : ∃ slots, r.trackedSlots (ε := ε) = .ok slots ∧ slots.Pairwise (· < ·)
    ∧ ∀ slot, slot ∈ slots ↔ ∃ b ∈ bids, b.slot = slot
  /-- The top bid of a slot is that of its last top row. -/
  topBid : ∀ slot, r.topBid (ε := ε) slot = .ok (lastTop slot rows)
  /-- It is the first of the highest ones. -/
  highest : ∀ slot top, lastTop slot rows = some top
    ↔ Highest top (bids.filter (·.slot = slot))

theorem happenings_process (batches : List (List Bid)) :
    (batches.map Call.process).flatMap Call.happenings = arriving batches.flatten := by
  unfold arriving
  rw [List.flatMap_map, List.map_flatten]
  rfl

theorem fits_process (batches : List (List Bid)) : Fits (batches.map .process) := by
  intro current hc
  obtain ⟨batch, _, hbatch⟩ := List.mem_map.mp hc
  exact Call.noConfusion hbatch

/-- **A run over a steady sink knows of its bids what there is to know.** -/
theorem exists_outcome (hs : sink.Steady) (s : σ) (batches : List (List Bid)) :
    ∃ r, ∃ rows : List Row,
      serve sink.logged { sink := (s, []) } (batches.map .process) = (.ok (), r)
      ∧ r.sink.2 = rows.map (Sink.Entry.write · .written)
      ∧ Outcome ε r rows batches.flatten := by
  obtain ⟨r, h, hserve⟩ := exists_end hs.logged (fits_process batches) (s, [])
  rw [happenings_process] at h
  obtain ⟨hm, _, htakes⟩ := h.facts
  obtain ⟨hnodup, hkeys⟩ := newKeys_arriving batches.flatten
  refine ⟨r, rows (arriving batches.flatten), hserve, Sink.log_of_takes htakes, hnodup, hkeys,
    ⟨_, h.stats, ?_, ?_⟩, ⟨_, h.trackedSlots, r.ledger.slots_ascending, fun slot => ?_⟩,
    fun slot => ?_, fun slot top => lastTop_arriving_iff⟩
  · rw [arrivals_arriving]
  · rw [length_newKeys]
  · rw [hm.slots, bidsOf_arriving]
    constructor
    · intro hne
      obtain ⟨b, hb⟩ := List.exists_mem_of_ne_nil _ hne
      obtain ⟨hmem, hslot⟩ := List.mem_filter.mp hb
      exact ⟨b, hmem, of_decide_eq_true hslot⟩
    · rintro ⟨b, hb, hslot⟩
      exact List.ne_nil_of_mem (List.mem_filter.mpr ⟨hb, decide_eq_true hslot⟩)
  · rw [h.topBid slot]
    refine congrArg Except.ok (Option.ext fun top => ?_)
    rw [hm.top?_eq_some_iff, bidsOf_arriving, lastTop_arriving_iff]

/--
**The order of arrival does not matter for what is known.**

Take any bids, the same bids in any other order, and any way of cutting either into batches. Two
recorders that process them over steady sinks write rows of the same keys, each key once; they
remember the same slots and report the same numbers of arrivals and of distinct bids; and for every
slot they report top bids of the same value, each being the bid of the slot's last top row.
-/
theorem outcome_of_perm (hs : sink.Steady) (hs' : sink'.Steady) (s : σ) (s' : σ')
    {batches batches' : List (List Bid)} (hp : batches.flatten.Perm batches'.flatten) :
    ∃ r r', ∃ rows rows' : List Row,
      serve sink.logged { sink := (s, []) } (batches.map .process) = (.ok (), r)
      ∧ serve sink'.logged { sink := (s', []) } (batches'.map .process) = (.ok (), r')
      ∧ r.sink.2 = rows.map (Sink.Entry.write · .written)
      ∧ r'.sink.2 = rows'.map (Sink.Entry.write · .written)
      ∧ (newKeys rows).Nodup ∧ (newKeys rows').Nodup
      ∧ (∀ key, key ∈ newKeys rows ↔ key ∈ newKeys rows')
      ∧ (∃ slots, r.trackedSlots (ε := ε) = .ok slots ∧ r'.trackedSlots (ε := ε') = .ok slots)
      ∧ (∃ stats stats', r.stats (ε := ε) = .ok stats ∧ r'.stats (ε := ε') = .ok stats'
          ∧ stats.received = stats'.received ∧ stats.unique = stats'.unique)
      ∧ ∀ slot, ∃ top top', r.topBid (ε := ε) slot = .ok top ∧ r'.topBid (ε := ε') slot = .ok top'
          ∧ top.map (·.value) = top'.map (·.value)
          ∧ lastTop slot rows = top ∧ lastTop slot rows' = top' := by
  obtain ⟨r, rows, hserve, hlog, h⟩ := exists_outcome hs s batches
  obtain ⟨r', rows', hserve', hlog', h'⟩ := exists_outcome hs' s' batches'
  have hkeys : ∀ key, key ∈ newKeys rows ↔ key ∈ newKeys rows' := by
    intro key
    rw [h.mem_keys, h'.mem_keys]
    exact (hp.map Bid.key).mem_iff
  refine ⟨r, r', rows, rows', hserve, hserve', hlog, hlog', h.nodup, h'.nodup, hkeys, ?_, ?_,
    fun slot => ⟨_, _, h.topBid slot, h'.topBid slot, ?_, rfl, rfl⟩⟩
  · obtain ⟨slots, hslots, hrise, hmem⟩ := h.slots
    obtain ⟨slots', hslots', hrise', hmem'⟩ := h'.slots
    -- slots in ascending order that are the same slots are the same list
    have hsame : ∀ slot, slot ∈ slots ↔ slot ∈ slots' := by
      intro slot
      rw [hmem, hmem']
      exact exists_congr fun b => and_congr_left fun _ => hp.mem_iff
    obtain rfl := eq_of_ascending hrise hrise' hsame
    exact ⟨slots, hslots, hslots'⟩
  · obtain ⟨stats, hstats, hreceived, hunique⟩ := h.stats
    obtain ⟨stats', hstats', hreceived', hunique'⟩ := h'.stats
    have hperm := (List.perm_ext_iff_of_nodup h.nodup h'.nodup).mpr hkeys
    refine ⟨stats, stats', hstats, hstats', ?_, ?_⟩
    · rw [hreceived, hreceived', hp.length_eq]
    · rw [hunique, hunique', hperm.length_eq]
  · exact map_value_eq_of_perm (h.highest slot) (h'.highest slot) (hp.filter _)

/-- Two bids of one key and a higher one between them. -/
def scatteredBatches : List (List Bid) :=
  [[Bid.plain ⟨7⟩ 5], [], [Bid.plain ⟨7⟩ 9, { Bid.plain ⟨7⟩ 5 with relay := "other" }]]

/-- The same bids in one batch, the highest first. -/
def gatheredBatches : List (List Bid) :=
  [[Bid.plain ⟨7⟩ 9, { Bid.plain ⟨7⟩ 5 with relay := "other" }, Bid.plain ⟨7⟩ 5]]

/-- The top bid changes hands in one of the runs only. Both end with the same keys and the same
highest value. -/
theorem outcome_of_gathered_run : (Sink.recording Unit).Steady
    ∧ scatteredBatches.flatten.Perm gatheredBatches.flatten
    ∧ ∃ r r', ∃ rows rows' : List Row,
        serve (Sink.recording Unit).logged { sink := ([], []) } (scatteredBatches.map .process)
          = (.ok (), r)
        ∧ serve (Sink.recording Unit).logged { sink := ([], []) } (gatheredBatches.map .process)
          = (.ok (), r')
        ∧ r.ledger.topped = 2 ∧ r'.ledger.topped = 1
        ∧ (∀ key, key ∈ newKeys rows ↔ key ∈ newKeys rows')
        ∧ (lastTop ⟨7⟩ rows).map (·.value) = (lastTop ⟨7⟩ rows').map (·.value) := by
  have hp : scatteredBatches.flatten.Perm gatheredBatches.flatten := by decide +kernel
  obtain ⟨r, r', rows, rows', hr, hr', _, _, _, _, hkeys, _, _, htop⟩ :=
    outcome_of_perm (Sink.steady_recording (ε := Unit)) (Sink.steady_recording (ε := Unit)) [] [] hp
  obtain ⟨_, _, _, _, hvalue, rfl, rfl⟩ := htop ⟨7⟩
  refine ⟨Sink.steady_recording, hp, r, r', rows, rows', hr, hr', ?_, ?_, hkeys, hvalue⟩
  · rw [← (Prod.mk.inj hr).2]
    decide +kernel
  · rw [← (Prod.mk.inj hr').2]
    decide +kernel

end Recorder

end BidArchive
