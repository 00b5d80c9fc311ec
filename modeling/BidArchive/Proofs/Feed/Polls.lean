import Mathlib.Data.List.Basic
import BidArchive.Feed.Polling
import BidArchive.Proofs.Chain.Starts

/-!
# When relays are polled

A poller goes through the offsets of one slot after the other. Which slot comes next is
found from the clock each time, and an offset whose moment has passed is left out, so
what is polled depends on how late the poller wakes up. The clock may stand still or
leap ahead; it does not go back, and nobody is woken early. Cancelled while it waits, a
poller takes no more steps, so a run may end anywhere.

The invariant `Sound` says that the offsets behind the poller lie in the past. So when
it has gone through a slot, that slot has begun, and the next choice falls on a later
one: what is done for a slot is never done again (`Behind`), however late the poller is.

Woken no more than a second late, a poller leaves out nothing: each time it looks at the
clock the next moment still lies ahead (`Comes`).
-/

namespace BidArchive.Feed

open Chain (Slot)

/-- A step of a poller, with the reading of the clock that it was taken at. -/
structure PollerTurn where
  now : Int64
  /-- The moment that was waited for last before this step. -/
  woken : Option Int64
  before : Poller
  act : PollerAct
  after : Poller
deriving DecidableEq, Repr

/-- The steps that a poller takes, one for each reading. -/
def Poller.turns (woken : Option Int64) (p : Poller) : List Int64 → List PollerTurn
  | [] => []
  | now :: rest =>
    ⟨now, woken, p, (p.step now).1, (p.step now).2⟩ :: turns (p.due?.or woken) (p.step now).2 rest

/-- The poll that is made in a step. -/
def PollerAct.poll? : PollerAct → Option (Slot × Int64)
  | .poll slot offsetMs => some (slot, offsetMs)
  | _ => .none

/-- The slot that is chosen to be gone through next. -/
def PollerTurn.choice? (turn : PollerTurn) : Option Slot :=
  match turn.before, turn.after with
  | .choosing, .considering slot _ => some slot
  | _, _ => none

/-- No step is taken before the moment that is waited for. -/
def NeverEarly (turns : List PollerTurn) : Prop :=
  ∀ turn ∈ turns, ∀ due ∈ turn.before.due?, due ≤ turn.now

/-- Between waking up and waiting again the clock is never read more than a second after the moment
that was waited for. -/
def Prompt (turns : List PollerTurn) : Prop :=
  ∀ turn ∈ turns, turn.before.due? = none →
    ∀ due ∈ turn.woken, turn.now.toInt ≤ due.toInt + 1000

instance (turns : List PollerTurn) : Decidable (NeverEarly turns) :=
  have (turn : PollerTurn) : Decidable (∀ due ∈ turn.before.due?, due ≤ turn.now) :=
    Option.decidableForallMem turn.before.due?
  List.decidableBAll (fun turn : PollerTurn => ∀ due ∈ turn.before.due?, due ≤ turn.now) turns

instance (turns : List PollerTurn) : Decidable (Prompt turns) :=
  have (turn : PollerTurn) : Decidable (∀ due ∈ turn.woken, turn.now.toInt ≤ due.toInt + 1000) :=
    Option.decidableForallMem turn.woken
  List.decidableBAll (fun turn : PollerTurn => turn.before.due? = none →
    ∀ due ∈ turn.woken, turn.now.toInt ≤ due.toInt + 1000) turns

/-- The order of polls: by slot, then by offset. -/
def Precedes (a b : Slot × Int64) : Prop := a.1 < b.1 ∨ a.1 = b.1 ∧ a.2 < b.2

variable {p : Poller} {slot s : Slot} {o last now : Int64} {left rest readings : List Int64}
  {woken : Option Int64} {turn : PollerTurn}

theorem acts_turns (woken : Option Int64) (p : Poller) (readings : List Int64) :
    (p.turns woken readings).map (·.act) = (p.run readings).1 := by
  induction readings generalizing woken p with
  | nil => rfl
  | cons now rest ih => exact congrArg ((p.step now).1 :: ·) (ih _ _)

/-! ## Slots and moments -/

/-- The slot after the one in progress is the next to begin. -/
theorem lt_of_nextSlot? (h : nextSlot? now = some slot) :
    now.toInt < slot.startInt ∧ slot.startInt ≤ now.toInt + 12000 := by
  obtain ⟨current, hcurrent, hslot⟩ := Option.bind_eq_some_iff.mp h
  have hone : (1 : Int64).toInt = 1 := by decide
  have hnumber := Slot.later?_eq_some_iff.mp hslot
  have hbegun := Slot.le_of_at? hcurrent
  unfold Slot.startInt at *
  omega

theorem pollMoment_eq_ahead {due : Int64} (h : pollMoment slot o now = .ahead due) :
    due.toInt = slot.startMs.toInt + o.toInt ∧ now ≤ due := by
  unfold pollMoment at h
  split at h
  · exact absurd h (by simp)
  · rename_i ms hms
    split at h
    · exact absurd h (by simp)
    · rename_i hlt
      rw [← Moment.ahead.inj h]
      exact ⟨Word.add?_eq_some_iff.mp hms, Int64.not_lt.mp hlt⟩

theorem pollMoment_eq_passed (h : pollMoment slot o now = .passed) :
    slot.startMs.toInt + o.toInt < now.toInt := by
  unfold pollMoment at h
  split at h
  · exact absurd h (by simp)
  · rename_i ms hms
    split at h
    · rename_i hlt
      rw [← Word.add?_eq_some_iff.mp hms]
      exact Int64.lt_iff_toInt_lt.mp hlt
    · exact absurd h (by simp)

theorem forall_pollOffsets {q : Int64 → Prop} :
    (∀ o ∈ pollOffsets, q o) ↔ q (-4000) ∧ q (-2000) ∧ q (-500) ∧ q 500 ∧ q 2000 := by
  simp [pollOffsets]

/-- The offsets stand more than a second apart, or just that. -/
theorem pollOffsets_apart : pollOffsets.Pairwise fun a b => a.toInt + 1000 ≤ b.toInt := by decide

/-! ## What lies behind a poller -/

/-- A slot is gone through, with some offsets left. -/
structure Amid (slot : Slot) (left : List Int64) (now : Int64) : Prop where
  /-- The slot does not begin before all that a clock can show. -/
  fits : -0x8000000000000000 ≤ slot.startInt
  /-- The moments of the other offsets are over. -/
  gone : ∃ done, pollOffsets = done ++ left
    ∧ ∀ o ∈ done, slot.startMs.toInt + o.toInt ≤ now.toInt

namespace Amid

theorem begin (h : nextSlot? now = some slot) : Amid slot pollOffsets now where
  fits := by
    have hlo := now.le_toInt
    have hlt := (lt_of_nextSlot? h).1
    omega
  gone := ⟨[], rfl, fun _ ho => absurd ho List.not_mem_nil⟩

theorem later (h : Amid slot left last) (hle : last ≤ now) : Amid slot left now := by
  obtain ⟨done, hdone, hgone⟩ := h.gone
  rw [Int64.le_iff_toInt_le] at hle
  exact ⟨h.fits, done, hdone, fun o ho => Int.le_trans (hgone o ho) hle⟩

theorem next (h : Amid slot (o :: rest) now)
    (hover : slot.startMs.toInt + o.toInt ≤ now.toInt) : Amid slot rest now := by
  obtain ⟨done, hdone, hgone⟩ := h.gone
  refine ⟨h.fits, done ++ [o], by rw [hdone, List.append_assoc, List.singleton_append], ?_⟩
  intro x hx
  rcases List.mem_append.mp hx with hx | hx
  · exact hgone x hx
  · rw [List.mem_singleton.mp hx]
    exact hover

/-- The offsets that are left come later by a second at least. -/
theorem apart (h : Amid slot (o :: rest) now) : ∀ x ∈ rest, o.toInt + 1000 ≤ x.toInt := by
  obtain ⟨done, hdone, _⟩ := h.gone
  have hapart := pollOffsets_apart
  rw [hdone, List.pairwise_append] at hapart
  exact (List.pairwise_cons.mp hapart.2.1).1

theorem lt (h : Amid slot (o :: rest) now) : ∀ x ∈ rest, o < x := by
  intro x hx
  have hapart := h.apart x hx
  rw [Int64.lt_iff_toInt_lt]
  omega

/-- The last offset is that of two seconds. -/
theorem eq_last (h : Amid slot [o] now) : o.toInt = 2000 := by
  obtain ⟨done, hdone, _⟩ := h.gone
  have hlast := congrArg List.getLast? hdone
  rw [List.getLast?_append, List.getLast?_singleton] at hlast
  have ho : some (2000 : Int64) = some o := hlast
  rw [← Option.some.inj ho]
  decide

/-- **A slot that was gone through has begun.** -/
theorem begun (h : Amid slot [] now) : slot.startInt + 2000 ≤ now.toInt := by
  obtain ⟨done, hdone, hgone⟩ := h.gone
  rw [List.append_nil] at hdone
  have hlast := hgone 2000 (by rw [← hdone]; decide)
  have htwo : (2000 : Int64).toInt = 2000 := by decide
  -- behind a start that was clamped no two seconds would fit a word
  have hhi := now.toInt_lt
  rw [Slot.toInt_startMs h.fits, htwo] at hlast
  omega

end Amid

namespace Poller

/-- What holds of the slot that a poller is at. -/
def Sound (now : Int64) : Poller → Prop
  | .considering slot left => Amid slot left now
  | .waiting slot o due rest =>
    Amid slot (o :: rest) now ∧ due.toInt = slot.startMs.toInt + o.toInt
  | _ => True

/-- **A step keeps what lies behind the poller in the past.** -/
theorem Sound.step (h : p.Sound last) (hle : last ≤ now) (hdue : ∀ due ∈ p.due?, due ≤ now) :
    (p.step now).2.Sound now := by
  cases p with
  | starting =>
      unfold Poller.step
      dsimp only
      split <;> trivial
  | aligning first => trivial
  | choosing =>
      unfold Poller.step
      dsimp only
      split
      · rename_i slot hslot
        exact Amid.begin hslot
      · trivial
  | considering slot left =>
      cases left with
      | nil => trivial
      | cons o rest =>
          have hamid : Amid slot (o :: rest) now := Amid.later h hle
          unfold Poller.step
          dsimp only
          split
          · rename_i due hahead
            exact ⟨hamid, (pollMoment_eq_ahead hahead).1⟩
          · rename_i hpassed
            exact hamid.next (Int.le_of_lt (pollMoment_eq_passed hpassed))
          · trivial
  | waiting slot o due rest =>
      have hwoken : due ≤ now := hdue due rfl
      refine (h.1.later hle).next ?_
      rw [← h.2]
      exact Int64.le_iff_toInt_le.mp hwoken
  | crashed => trivial

/-- The slot was gone through up to the offset: all that is to come lies behind that. -/
def Behind (s : Slot) (o now : Int64) : Poller → Prop
  | .choosing => s.startInt + 2000 ≤ now.toInt
  | .considering slot left => s < slot ∨ s = slot ∧ ∀ x ∈ left, o < x
  | .waiting slot x _ rest => s < slot ∨ s = slot ∧ ∀ y ∈ x :: rest, o < y
  | .crashed => True
  | _ => False

end Poller

/-- What is done in a step comes after the slot and the offset. -/
def PollerTurn.After (s : Slot) (o : Int64) (turn : PollerTurn) : Prop :=
  (∀ poll ∈ turn.act.poll?, Precedes (s, o) poll) ∧ ∀ slot ∈ turn.choice?, s < slot

namespace Poller

/-- **What comes after a slot and an offset goes on to do so.** -/
theorem Behind.step (woken : Option Int64) (hb : p.Behind s o last) (hs : p.Sound last)
    (hle : last ≤ now) :
    (p.step now).2.Behind s o now
      ∧ PollerTurn.After s o ⟨now, woken, p, (p.step now).1, (p.step now).2⟩ := by
  cases p with
  | starting | aligning first => exact hb.elim
  | crashed => exact ⟨trivial, fun _ h => absurd h (Option.not_mem_none _),
      fun _ h => absurd h (Option.not_mem_none _)⟩
  | choosing =>
      have hover : s.startInt + 2000 ≤ last.toInt := hb
      rw [Int64.le_iff_toInt_le] at hle
      unfold Poller.step
      dsimp only
      split
      · rename_i slot hslot
        have hlt : s < slot := by
          have hnext := (lt_of_nextSlot? hslot).1
          rw [← Slot.startInt_lt_iff]
          omega
        refine ⟨Or.inl hlt, fun _ h => absurd h (Option.not_mem_none _), fun t ht => ?_⟩
        rw [← Option.some.inj ht]
        exact hlt
      · exact ⟨trivial, fun _ h => absurd h (Option.not_mem_none _),
          fun _ h => absurd h (Option.not_mem_none _)⟩
  | considering slot left =>
      refine ⟨?_, fun poll hpoll => ?_, fun _ h => absurd h (by simp [PollerTurn.choice?])⟩
      · cases left with
        | nil =>
            -- the slot that was gone through is over, and the other one began no later
            have hover := (Amid.later hs hle).begun
            have hstart : s.startInt ≤ slot.startInt := by
              rcases hb with hlt | ⟨rfl, _⟩
              · exact Int.le_of_lt (Slot.startInt_lt_iff.mpr hlt)
              · exact Int.le_refl _
            show s.startInt + 2000 ≤ now.toInt
            omega
        | cons x rest =>
            unfold Poller.step
            dsimp only
            split
            · exact hb
            · exact hb.imp_right fun h => ⟨h.1, fun y hy => h.2 y (List.mem_cons_of_mem _ hy)⟩
            · trivial
      · cases left with
        | nil => exact absurd hpoll (Option.not_mem_none _)
        | cons x rest =>
            unfold Poller.step at hpoll
            dsimp only at hpoll
            split at hpoll <;> exact absurd hpoll (by simp [PollerAct.poll?])
  | waiting slot x due rest =>
      refine ⟨?_, fun poll hpoll => ?_, fun _ h => absurd h (by simp [PollerTurn.choice?])⟩
      · exact hb.imp_right fun h => ⟨h.1, fun y hy => h.2 y (List.mem_cons_of_mem _ hy)⟩
      · obtain rfl : (slot, x) = poll := Option.some.inj hpoll
        exact hb.imp_right fun h => ⟨h.1, h.2 x List.mem_cons_self⟩

/-- **So it does for a whole run.** -/
theorem Behind.turns (hb : p.Behind s o last) (hs : p.Sound last)
    (hclock : (last :: readings).Pairwise (· ≤ ·)) (hsleep : NeverEarly (p.turns woken readings)) :
    ∀ turn ∈ p.turns woken readings, turn.After s o := by
  induction readings generalizing p last woken with
  | nil => exact fun _ h => absurd h List.not_mem_nil
  | cons now rest ih =>
      obtain ⟨hle, hclock⟩ := List.pairwise_cons.mp hclock
      obtain ⟨hdue, hsleep⟩ := List.forall_mem_cons.mp hsleep
      have hnow := hle now List.mem_cons_self
      obtain ⟨hbehind, hafter⟩ := hb.step woken hs hnow
      exact List.forall_mem_cons.mpr ⟨hafter, ih hbehind (hs.step hnow hdue) hclock hsleep⟩

/-- A poll is made in its time, and leaves nothing of its slot up to its offset. -/
theorem of_poll (hs : p.Sound last) (hdue : ∀ due ∈ p.due?, due ≤ now)
    (h : (p.step now).1 = .poll slot o) :
    slot.startMs.toInt + o.toInt ≤ now.toInt ∧ (p.step now).2.Behind slot o now := by
  cases p with
  | starting | choosing =>
      unfold Poller.step at h
      dsimp only at h
      split at h <;> exact absurd h (by simp)
  | aligning first | crashed => exact PollerAct.noConfusion h
  | considering t left =>
      cases left with
      | nil => exact PollerAct.noConfusion h
      | cons x rest =>
          unfold Poller.step at h
          dsimp only at h
          split at h <;> exact absurd h (by simp)
  | waiting t x due rest =>
      obtain ⟨rfl, rfl⟩ := PollerAct.poll.inj h
      refine ⟨?_, Or.inr ⟨rfl, hs.1.lt⟩⟩
      rw [← hs.2]
      exact Int64.le_iff_toInt_le.mp (hdue due rfl)

/-- What is chosen has all its offsets still to come. -/
theorem behind_of_choice
    (h : PollerTurn.choice? ⟨now, woken, p, (p.step now).1, (p.step now).2⟩ = some slot) :
    (p.step now).2.Behind slot Int64.minValue now := by
  unfold PollerTurn.choice? at h
  dsimp only at h
  split at h
  · rename_i t left hstep
    rw [hstep]
    have ht := Option.some.inj h
    unfold Poller.step at hstep
    dsimp only at hstep
    split at hstep
    · obtain ⟨_, rfl⟩ := Poller.considering.inj hstep
      exact Or.inr ⟨ht.symm, forall_pollOffsets.mpr (by decide)⟩
    · exact absurd hstep (by simp)
  · exact absurd h (by simp)

/-- **Polls and choices move on.** -/
theorem turns_ordered (hs : p.Sound last) (hclock : (last :: readings).Pairwise (· ≤ ·))
    (hsleep : NeverEarly (p.turns woken readings)) :
    (∀ turn ∈ p.turns woken readings, ∀ slot o, turn.act = .poll slot o →
        slot.startMs.toInt + o.toInt ≤ turn.now.toInt)
      ∧ (p.turns woken readings).Pairwise fun a b =>
        (∀ poll ∈ a.act.poll?, b.After poll.1 poll.2)
          ∧ ∀ slot ∈ a.choice?, b.After slot Int64.minValue := by
  induction readings generalizing p last woken with
  | nil => exact ⟨fun _ h => absurd h List.not_mem_nil, List.Pairwise.nil⟩
  | cons now rest ih =>
      obtain ⟨hle, hclock⟩ := List.pairwise_cons.mp hclock
      obtain ⟨hdue, hsleep⟩ := List.forall_mem_cons.mp hsleep
      have hnow := hle now List.mem_cons_self
      have hsound := hs.step hnow hdue
      obtain ⟨htimes, hpairs⟩ := ih hsound hclock hsleep
      refine ⟨List.forall_mem_cons.mpr ⟨fun slot o h => (of_poll hs hdue h).1, htimes⟩,
        List.pairwise_cons.mpr ⟨fun b hb => ⟨fun poll hpoll => ?_, fun slot hslot => ?_⟩, hpairs⟩⟩
      · have hact : (p.step now).1 = .poll poll.1 poll.2 := by
          dsimp only at hpoll
          unfold PollerAct.poll? at hpoll
          split at hpoll
          · rename_i hact
            rw [hact, ← Option.some.inj hpoll]
          · exact absurd hpoll (by simp)
        exact (of_poll hs hdue hact).2.turns hsound hclock hsleep b hb
      · exact (behind_of_choice hslot).turns hsound hclock hsleep b hb

end Poller

/-! ## Pollers that are woken in time -/

/-- The polls of so many slots, from slot `k` on, at all offsets in order. -/
def timetable (k : Int) (slots : Nat) : List (Int × Int64) :=
  (List.range slots).flatMap fun (i : Nat) => pollOffsets.map fun o => (k + i, o)

/-- A poll with its slot as an integer. -/
def numbered (poll : Slot × Int64) : Int × Int64 := (poll.1.number.toInt, poll.2)

theorem timetable_succ (k : Int) (slots : Nat) :
    timetable k (slots + 1) = pollOffsets.map (fun o => (k, o)) ++ timetable (k + 1) slots := by
  unfold timetable
  rw [List.range_succ_eq_map, List.flatMap_cons, List.flatMap_map]
  refine congrArg₂ (· ++ ·) (by simp) (List.flatMap_congr fun i _ => ?_)
  refine List.map_congr_left fun o _ => ?_
  rw [Nat.succ_eq_add_one, Int.natCast_add, Int.add_assoc, Int.add_comm 1]
  rfl

namespace Poller

/-- The polls to come are those of slot `k` at the offsets that are left, and then all those of the
slots after it: that is what the moment waited for last has to do with what comes next. -/
def Comes (woken : Option Int64) (k : Int) (left : List Int64) : Poller → Prop
  | .starting => False
  | .aligning first =>
    left = [] ∧ first.number.toInt = k ∧ first.startMs.toInt = first.startInt
  | .choosing => left = [] ∧ ∃ due ∈ woken, (k * 12 + 1606824023) * 1000 ≤ due.toInt
    ∧ due.toInt ≤ (k * 12 + 1606824023) * 1000 + 2000
  | .considering slot rest => left = rest ∧ slot.number.toInt = k ∧ ∃ due ∈ woken,
    (∀ o ∈ rest, due.toInt + 1000 ≤ slot.startMs.toInt + o.toInt)
      ∧ (rest = [] → due.toInt = slot.startMs.toInt + 2000)
  | .waiting slot o _ rest => left = o :: rest ∧ slot.number.toInt = k
  | .crashed => True

/-- The polls made in some steps. -/
def pollsOf (turns : List PollerTurn) : List (Int × Int64) :=
  (turns.filterMap (·.act.poll?)).map numbered

theorem pollsOf_turns (woken : Option Int64) (p : Poller) (now : Int64) (rest : List Int64) :
    pollsOf (p.turns woken (now :: rest)) = ((p.step now).1.poll?).toList.map numbered
      ++ pollsOf ((p.step now).2.turns (p.due?.or woken) rest) := by
  unfold pollsOf
  rw [turns, List.filterMap_cons]
  cases (p.step now).1.poll? <;> rfl

variable {k : Int}

/-- **A poller that is woken in time makes the next poll of the timetable**, or goes on to it. -/
theorem Comes.step (h : p.Comes woken k left) (hs : p.Sound last)
    (hwoken : ∀ due ∈ woken, due ≤ last) (hle : last ≤ now) (hdue : ∀ due ∈ p.due?, due ≤ now)
    (hprompt : p.due? = none → ∀ due ∈ woken, now.toInt ≤ due.toInt + 1000) :
    ((p.step now).1.poll? = none ∧ (p.step now).2.Comes (p.due?.or woken) k left)
      ∨ ((p.step now).1.poll? = none ∧ left = []
        ∧ (p.step now).2.Comes (p.due?.or woken) (k + 1) pollOffsets)
      ∨ ∃ o rest slot, left = o :: rest ∧ (p.step now).1.poll? = some (slot, o)
        ∧ slot.number.toInt = k ∧ (p.step now).2.Comes (p.due?.or woken) k rest := by
  cases p with
  | starting => exact h.elim
  | crashed => exact Or.inl ⟨rfl, trivial⟩
  | aligning first =>
      obtain ⟨hleft, rfl, hstart⟩ := h
      refine Or.inl ⟨rfl, hleft, first.startMs, rfl, ?_, ?_⟩
      · exact Int.le_of_eq hstart.symm
      · rw [hstart]
        exact Int.le_add_of_nonneg_right (by decide)
  | choosing =>
      obtain ⟨hleft, due, hmem, hlo, hhi⟩ := h
      have hpast := Int64.le_iff_toInt_le.mp (Int64.le_trans (hwoken due hmem) hle)
      have hnow := hprompt rfl due hmem
      unfold Poller.step
      dsimp only
      split
      · -- slot `k` is in progress, so the next one is chosen
        rename_i slot hslot
        have hnext := lt_of_nextSlot? hslot
        have hfits := (Amid.begin hslot).fits
        have hmax := now.toInt_lt
        have hk : slot.number.toInt = k + 1 := by
          unfold Slot.startInt at hnext
          omega
        have hstart := Slot.toInt_startMs hfits
        refine Or.inr (Or.inl ⟨rfl, hleft, rfl, hk, due, hmem, fun o ho => ?_,
          fun hnil => absurd hnil (by decide)⟩)
        have hall : ∀ o ∈ pollOffsets, -4000 ≤ o.toInt := forall_pollOffsets.mpr (by decide)
        have hfirst := hall o ho
        unfold Slot.startInt at hstart hnext
        omega
      · exact Or.inl ⟨rfl, trivial⟩
  | considering slot rest =>
      obtain ⟨rfl, rfl, due, hmem, hahead, hlast⟩ := h
      have hnow := hprompt rfl due hmem
      cases left with
      | nil =>
          -- two seconds behind a clamped start fit no word
          have hend := hlast rfl
          have hmax := due.toInt_lt
          have hstart := Slot.toInt_startMs hs.fits
          refine Or.inl ⟨rfl, rfl, due, hmem, ?_, ?_⟩
          · show slot.startInt ≤ due.toInt
            omega
          · show due.toInt ≤ slot.startInt + 2000
            omega
      | cons o rest =>
          have hnext := hahead o List.mem_cons_self
          unfold Poller.step
          dsimp only
          split
          · exact Or.inl ⟨rfl, rfl, rfl⟩
          · rename_i hpassed
            have := pollMoment_eq_passed hpassed
            omega
          · exact Or.inl ⟨rfl, trivial⟩
  | waiting slot o due rest =>
      obtain ⟨rfl, rfl⟩ := h
      refine Or.inr (Or.inr ⟨o, rest, slot, rfl, rfl, rfl, rfl, rfl, due, rfl, fun x hx => ?_, ?_⟩)
      · have hapart := hs.1.apart x hx
        rw [hs.2]
        omega
      · rintro rfl
        rw [hs.2, hs.1.eq_last]

/-- **It keeps to the timetable.** -/
theorem Comes.turns (h : p.Comes woken k left) (hs : p.Sound last)
    (hwoken : ∀ due ∈ woken, due ≤ last) (hclock : (last :: readings).Pairwise (· ≤ ·))
    (hsleep : NeverEarly (p.turns woken readings)) (hprompt : Prompt (p.turns woken readings)) :
    ∃ n, pollsOf (p.turns woken readings)
      <+: left.map (fun o => (k, o)) ++ timetable (k + 1) n := by
  induction readings generalizing p last woken k left with
  | nil => exact ⟨0, List.nil_prefix⟩
  | cons now rest ih =>
      obtain ⟨hle, hclock⟩ := List.pairwise_cons.mp hclock
      obtain ⟨hdue, hsleep⟩ := List.forall_mem_cons.mp hsleep
      obtain ⟨hone, hprompt⟩ := List.forall_mem_cons.mp hprompt
      have hnow := hle now List.mem_cons_self
      have hsound := hs.step hnow hdue
      have hwoken' : ∀ due ∈ p.due?.or woken, due ≤ now := by
        intro due hmem
        rcases Option.or_eq_some_iff.mp hmem with hmem | ⟨_, hmem⟩
        · exact hdue due hmem
        · exact Int64.le_trans (hwoken due hmem) hnow
      rw [pollsOf_turns]
      rcases h.step hs hwoken hnow hdue hone with
        ⟨hpoll, hcomes⟩ | ⟨hpoll, rfl, hcomes⟩ | ⟨o, left, slot, rfl, hpoll, rfl, hcomes⟩
      · rw [hpoll]
        exact ih hcomes hsound hwoken' hclock hsleep hprompt
      · obtain ⟨n, hn⟩ := ih hcomes hsound hwoken' hclock hsleep hprompt
        refine ⟨n + 1, ?_⟩
        rw [hpoll, timetable_succ]
        exact hn
      · obtain ⟨n, hn⟩ := ih hcomes hsound hwoken' hclock hsleep hprompt
        refine ⟨n, ?_⟩
        rw [hpoll]
        exact List.cons_prefix_cons.mpr ⟨rfl, hn⟩

/-! ### At the end of the clock -/

/-- Nothing can be waited for any more once the clock has come to its last reading. -/
def Silent : Poller → Prop
  | .choosing | .crashed => True
  | .considering slot left => slot.startMs = Int64.maxValue ∧ ∀ o ∈ left, o ∈ pollOffsets
  | _ => False

theorem Silent.step (h : p.Silent) :
    (p.step Int64.maxValue).1.poll? = none ∧ (p.step Int64.maxValue).2.Silent := by
  cases p with
  | starting | aligning first | waiting slot o due rest => exact h.elim
  | crashed => exact ⟨rfl, trivial⟩
  | choosing =>
      unfold Poller.step
      dsimp only
      split
      · rename_i slot hslot
        refine ⟨rfl, ?_, fun _ ho => ho⟩
        have hlate := (lt_of_nextSlot? hslot).1
        have hstart := Slot.toInt_startMs (Amid.begin hslot).fits
        have hmax : Int64.maxValue.toInt = 0x7fffffffffffffff := by decide
        exact Int64.toInt.inj (by omega)
      · exact ⟨rfl, trivial⟩
  | considering slot left =>
      cases left with
      | nil => exact ⟨rfl, trivial⟩
      | cons o rest =>
          obtain ⟨hstart, hleft⟩ := h
          have hrest : ∀ x ∈ rest, x ∈ pollOffsets :=
            fun x hx => hleft x (List.mem_cons_of_mem _ hx)
          have hne : ∀ o ∈ pollOffsets, o.toInt ≠ 0 := forall_pollOffsets.mpr (by decide)
          have ho := hne o (hleft o List.mem_cons_self)
          unfold Poller.step
          dsimp only
          split
          · -- a moment ahead would have to be the last one itself
            rename_i due hahead
            obtain ⟨hdue, hle⟩ := pollMoment_eq_ahead hahead
            rw [Int64.le_antisymm (Int64.le_maxValue due) hle, hstart] at hdue
            omega
          · exact ⟨rfl, hstart, hrest⟩
          · exact ⟨rfl, trivial⟩

theorem Silent.pollsOf (h : p.Silent) (hend : ∀ now ∈ readings, now = Int64.maxValue)
    (woken : Option Int64) : pollsOf (p.turns woken readings) = [] := by
  induction readings generalizing p woken with
  | nil => rfl
  | cons now rest ih =>
      obtain ⟨rfl, hrest⟩ := List.forall_mem_cons.mp hend
      rw [pollsOf_turns, h.step.1, ih h.step.2 hrest]
      rfl

end Poller

/-! ## Runs -/

/-- The steps of a poller from its start. -/
def journal (readings : List Int64) : List PollerTurn := Poller.starting.turns none readings

/-- The polls that a poller makes from its start. -/
def polled (readings : List Int64) : List (Slot × Int64) :=
  (Poller.run readings .starting).1.filterMap PollerAct.poll?

theorem polled_eq (readings : List Int64) :
    polled readings = (journal readings).filterMap (·.act.poll?) := by
  unfold polled journal
  rw [← acts_turns none, List.filterMap_map]
  rfl

theorem requests_eq (relays : List Relay.Entry) (acts : List PollerAct) :
    acts.flatMap (·.requests relays)
      = (acts.filterMap PollerAct.poll?).flatMap fun poll =>
          relays.map fun relay => ⟨relay, poll.1, poll.2⟩ := by
  induction acts with
  | nil => rfl
  | cons act rest ih =>
      rw [List.flatMap_cons, ih]
      cases act <;> rfl

/-- **From its start a poller that is woken in time keeps to the timetable.** -/
theorem prefix_timetable (hclock : readings.Pairwise (· ≤ ·))
    (hsleep : NeverEarly (journal readings)) (hprompt : Prompt (journal readings)) {first : Slot}
    (hfirst : readings.head?.bind nextSlot? = some first) :
    ∃ n, (polled readings).map numbered <+: timetable (first.number.toInt + 1) n := by
  rw [polled_eq]
  show ∃ n, Poller.pollsOf (journal readings) <+: _
  unfold journal at *
  cases readings with
  | nil => exact absurd hfirst (by simp)
  | cons now rest =>
      have hnext : nextSlot? now = some first := hfirst
      have hstep : Poller.starting.step now = (.none, .aligning first) := by
        unfold Poller.step
        rw [hnext]
      obtain ⟨_, hsleep⟩ := List.forall_mem_cons.mp hsleep
      obtain ⟨_, hprompt⟩ := List.forall_mem_cons.mp hprompt
      rw [Poller.pollsOf_turns]
      rw [hstep] at hsleep hprompt ⊢
      have hstart := Slot.toInt_startMs (Amid.begin hnext).fits
      by_cases hfits : first.startInt ≤ 0x7fffffffffffffff
      · exact Poller.Comes.turns (p := .aligning first) ⟨rfl, rfl, by omega⟩ trivial
          (fun _ h => absurd h (by simp [Poller.due?])) hclock hsleep hprompt
      · -- the first slot begins when the clock shows its last reading, and nothing comes of it
        refine ⟨0, ?_⟩
        cases rest with
        | nil => exact List.nil_prefix
        | cons second rest =>
            obtain ⟨hdue, _⟩ := List.forall_mem_cons.mp hsleep
            have hmax : Int64.maxValue.toInt = 0x7fffffffffffffff := by decide
            have hlast : first.startMs = Int64.maxValue := Int64.toInt.inj (by omega)
            have hsecond : Int64.maxValue ≤ second := hlast ▸ hdue first.startMs rfl
            have hend : ∀ x ∈ rest, x = Int64.maxValue := fun x hx =>
              Int64.le_antisymm (Int64.le_maxValue x) (Int64.le_trans hsecond
                ((List.pairwise_cons.mp (List.pairwise_cons.mp hclock).2).1 x hx))
            have hsilent : (Poller.choosing).Silent := trivial
            rw [Poller.pollsOf_turns]
            show Poller.pollsOf (Poller.choosing.turns _ rest) <+: _
            rw [hsilent.pollsOf hend]
            exact List.nil_prefix

/--
**Polls move on, and none is left out by a poller that is woken in time.**

Whatever the clock shows, as long as it does not go back and nobody is woken early: the polls rise
by slot and offset, none is made before its moment, and each choice falls on a later slot than the
one before. If moreover the clock is never read more than a second after the moment that was waited
for, the polls are the first ones of the timetable that has all offsets of every slot behind the
first one to begin. A poll is one request for each relay.
-/
theorem polls_of_run (relays : List Relay.Entry) (hclock : readings.Pairwise (· ≤ ·))
    (hsleep : NeverEarly (journal readings)) :
    (polled readings).Pairwise Precedes
      ∧ (∀ turn ∈ journal readings, ∀ slot o, turn.act = .poll slot o →
          slot.startMs.toInt + o.toInt ≤ turn.now.toInt)
      ∧ ((journal readings).filterMap PollerTurn.choice?).Pairwise (· < ·)
      ∧ (Prompt (journal readings) → ∀ first, readings.head?.bind nextSlot? = some first →
          ∃ n, (polled readings).map numbered <+: timetable (first.number.toInt + 1) n)
      ∧ (Poller.run readings .starting).1.flatMap (·.requests relays)
          = (polled readings).flatMap fun poll =>
              relays.map fun relay => ⟨relay, poll.1, poll.2⟩ := by
  have hstart : Poller.starting.Sound Int64.minValue := trivial
  obtain ⟨htimes, hpairs⟩ := Poller.turns_ordered hstart
    (List.pairwise_cons.mpr ⟨fun x _ => Int64.minValue_le x, hclock⟩) hsleep
  refine ⟨?_, htimes, ?_, fun hprompt first => prefix_timetable hclock hsleep hprompt,
    requests_eq relays _⟩
  · rw [polled_eq, List.pairwise_filterMap]
    exact hpairs.imp fun hab poll hpoll poll' hpoll' => (hab.1 poll hpoll).1 poll' hpoll'
  · rw [List.pairwise_filterMap]
    exact hpairs.imp fun hab slot hslot slot' hslot' => (hab.2 slot hslot).2 slot' hslot'

/-- A clock that is read from slot 0 on, a little late each time. -/
def lateReadings : List Int64 :=
  [1606824026000, 1606824035999, 1606824036000, 1606824036000, 1606824043000, 1606824043007,
    1606824045900, 1606824046000, 1606824046500, 1606824047500, 1606824047500, 1606824047600,
    1606824050000, 1606824050000]

/-- All offsets of slot 2 are polled, though the clock is read a whole second late before the
fourth. -/
theorem polls_of_late_run : lateReadings.Pairwise (· ≤ ·) ∧ NeverEarly (journal lateReadings)
    ∧ Prompt (journal lateReadings)
    ∧ (∃ n, (polled lateReadings).map numbered <+: timetable 2 n)
    ∧ polled lateReadings = [(⟨2⟩, -4000), (⟨2⟩, -2000), (⟨2⟩, -500), (⟨2⟩, 500), (⟨2⟩, 2000)] := by
  have hclock : lateReadings.Pairwise (· ≤ ·) := by decide
  have hsleep : NeverEarly (journal lateReadings) := by decide +kernel
  have hprompt : Prompt (journal lateReadings) := by decide +kernel
  obtain ⟨_, _, _, htable, _⟩ := polls_of_run [] hclock hsleep
  exact ⟨hclock, hsleep, hprompt, htable hprompt ⟨1⟩ (by decide +kernel), by decide +kernel⟩

end BidArchive.Feed
