import BidArchive.Feed.Heads
import BidArchive.Proofs.Beacon.Decoded
import BidArchive.Proofs.Chain.Starts

/-!
# What becomes of a head

A head is scheduled if and only if everything is found that a schedule needs (`Finds`):
its next slot lies behind all that were scheduled, the proposer is known once duties were
refreshed, and the node has the hash of the head's payload. Whatever is missing, the last
slot scheduled stays what it was, so the head leaves no mark on later ones (`take_cases`).

With slots in range no calculation overflows on the way.
-/

namespace BidArchive.Feed

open Chain (Slot)

variable {σ ε : Type} {node : Beacon.Node σ ε} {head : Beacon.Head} {state : HeadState} {s : σ}
  {slot : Slot}

/-- All that it takes to schedule the headers of the slot after a head. -/
structure Finds (node : Beacon.Node σ ε) (head : Beacon.Head) (state : HeadState) (s : σ)
    (schedule : Schedule) : Prop where
  /-- The slot is the one after the head's. -/
  next : head.slot.later? 1 = some schedule.slot
  /-- It lies behind the last slot scheduled. -/
  ahead : ∀ last, state.scheduled = some last → last < schedule.slot
  /-- Its proposer is known once duties were refreshed. -/
  proposer : (state.duties.refresh node head.slot.epoch s).2.1.proposer? schedule.slot
    = some schedule.proposer
  /-- The node has the hash of the head's payload. -/
  parent : (node.blockHash head.block (state.duties.refresh node head.slot.epoch s).2.2).1
    = .ok (some schedule.parentHash)
  /-- Headers are requested a second into the slot. -/
  moment : ∃ start, schedule.slot.start? = some start
    ∧ schedule.atMs.toInt = start.toInt + 1000

namespace HeadState

theorem covers_eq_false_iff :
    state.covers slot = false ↔ ∀ last, state.scheduled = some last → last < slot := by
  unfold covers
  cases state.scheduled with
  | none => simp
  | some last =>
      simp only [decide_eq_false_iff_not, Option.some.injEq, forall_eq', Slot.le_iff, Slot.lt_iff]
      omega

/-- With its proposer known, a slot is scheduled if and only if the node has the hash. -/
theorem schedule_cases (hr : slot.inRange = true) (node : Beacon.Node σ ε) (head : Beacon.Head)
    (proposer : String) (state : HeadState) (s : σ) :
    (∃ hash atMs start, (node.blockHash head.block s).1 = .ok (some hash)
        ∧ slot.start? = some start ∧ atMs.toInt = start.toInt + 1000
        ∧ (schedule node head slot proposer state s).outcome
            = .scheduled ⟨slot, hash, proposer, atMs⟩
        ∧ (schedule node head slot proposer state s).state
            = { state with scheduled := some slot })
      ∨ ((∀ hash, (node.blockHash head.block s).1 ≠ .ok (some hash))
        ∧ (schedule node head slot proposer state s).outcome = .skipped
        ∧ (schedule node head slot proposer state s).state = state) := by
  unfold schedule
  split
  · rename_i h
    exact Or.inr ⟨fun hash hh => by rw [h] at hh; simp at hh, rfl, rfl⟩
  · rename_i h
    exact Or.inr ⟨fun hash hh => by rw [h] at hh; simp at hh, rfl, rfl⟩
  · rename_i hash s' h
    -- the delay fits on top of the start, so this is where the crash is ruled out
    obtain ⟨start, hstart, hfits⟩ := Slot.exists_start hr
    have hlo := start.le_toInt
    have hdelay : requestDelayMs.toInt = 1000 := by decide
    obtain ⟨atMs, hat⟩ := Word.exists_toInt_eq (n := start.toInt + 1000) (by omega) (by omega)
    have hadd : Word.add? slot.startMs requestDelayMs = some atMs := by
      rw [Slot.startMs_of_start? hstart, Word.add?_eq_some_iff, hdelay, hat]
    refine Or.inl ⟨hash, atMs, start, by rw [h], hstart, hat, ?_⟩
    rw [hadd]
    exact ⟨rfl, rfl⟩

/-- A slot that lies ahead is proposed with the duties as they were refreshed. -/
theorem takeNext_of_ahead (hc : state.covers slot = false)
    (hne : (state.duties.refresh node head.slot.epoch s).1 ≠ .crashed) :
    (takeNext node head slot state s).outcome
        = (propose node head slot
            { state with duties := (state.duties.refresh node head.slot.epoch s).2.1 }
            (state.duties.refresh node head.slot.epoch s).2.2).outcome
      ∧ (takeNext node head slot state s).state
        = (propose node head slot
            { state with duties := (state.duties.refresh node head.slot.epoch s).2.1 }
            (state.duties.refresh node head.slot.epoch s).2.2).state := by
  unfold takeNext
  rw [hc, if_neg Bool.false_ne_true]
  dsimp only
  split
  · exact absurd ‹_› hne
  · exact ⟨rfl, rfl⟩

/-- **What becomes of a head.** It is scheduled if all is found that it takes; otherwise it is
skipped and the last slot scheduled stays. -/
theorem take_cases (hn : node.InRange) (hd : state.duties.InRange)
    (hr : head.slot.inRange = true) (s : σ) :
    (∃ schedule, Finds node head state s schedule
        ∧ (state.take node head s).outcome = .scheduled schedule
        ∧ (state.take node head s).state =
          { duties := (state.duties.refresh node head.slot.epoch s).2.1
            scheduled := some schedule.slot })
      ∨ ((∀ schedule, ¬ Finds node head state s schedule)
        ∧ (state.take node head s).outcome = .skipped
        ∧ (state.take node head s).state.scheduled = state.scheduled
        ∧ (state.take node head s).state.duties.InRange) := by
  obtain ⟨slot, hslot⟩ := Slot.exists_next hr
  obtain ⟨epoch, hepoch⟩ := Slot.exists_next_epoch hr
  have hduties := hd.refresh hn head.slot.epoch s
  have hslot_eq : ∀ {schedule}, Finds node head state s schedule → schedule.slot = slot :=
    fun hfinds => Option.some.inj (hfinds.next.symm.trans hslot)
  unfold take
  rw [hslot]
  dsimp only
  by_cases hc : state.covers slot = true
  · -- the slot is covered: nothing is asked and nothing changes
    unfold takeNext
    rw [if_pos hc]
    refine Or.inr ⟨fun schedule hfinds => ?_, rfl, rfl, hd⟩
    rw [← hslot_eq hfinds, covers_eq_false_iff.mpr hfinds.ahead] at hc
    exact Bool.noConfusion hc
  · rw [Bool.not_eq_true] at hc
    obtain ⟨hout, hstate⟩ :=
      takeNext_of_ahead hc (Beacon.refresh_ne_crashed hepoch node state.duties s)
    rw [hout, hstate]
    unfold propose
    dsimp only
    split
    · rename_i hp
      refine Or.inr ⟨fun schedule hfinds => ?_, rfl, rfl, hduties⟩
      have := hfinds.proposer
      rw [hslot_eq hfinds, hp] at this
      exact absurd this (by simp)
    · rename_i proposer hp
      rcases schedule_cases (hduties _ _ hp) node head proposer
          { state with duties := (state.duties.refresh node head.slot.epoch s).2.1 }
          (state.duties.refresh node head.slot.epoch s).2.2 with
        ⟨hash, atMs, start, hhash, hstart, hat, hout, hstate⟩ | ⟨hnone, hout, hstate⟩
      · rw [hout, hstate]
        exact Or.inl ⟨⟨slot, hash, proposer, atMs⟩,
          ⟨hslot, covers_eq_false_iff.mp hc, hp, hhash, start, hstart, hat⟩, rfl, rfl⟩
      · rw [hout, hstate]
        exact Or.inr ⟨fun schedule hfinds => hnone _ hfinds.parent, rfl, rfl, hduties⟩

end HeadState

end BidArchive.Feed
