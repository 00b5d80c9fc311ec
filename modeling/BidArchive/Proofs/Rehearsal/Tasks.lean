import BidArchive.Proofs.Feed.Requests
import BidArchive.Rehearsal.Run

/-!
# Tasks in rehearsals

Follower and tasks are rehearsed by the steps that they take anyway: most of what happens in a
rehearsal leaves them alone, and the rest are steps of theirs. So what every step keeps holds in
every rehearsal, whatever is scripted: all tasks are accounted for and none is early
(`tasks_of_rehearsals`).
-/

namespace BidArchive.Rehearsal

open Feed (Accounted)

variable {setting : Setting}

namespace World

variable (setting) (w : World)

/-! ## What leaves follower and tasks alone -/

@[simp] theorem scene_report (notices : List Notice) : (w.report notices).scene = w.scene := rfl

@[simp] theorem scene_call (texts : List String) : (w.call texts).scene = w.scene := rfl

@[simp] theorem scene_after (delayMs : Nat) (what : Happening) :
    (w.after delayMs what).scene = w.scene := rfl

theorem scene_foldl {α : Type} {f : World → α → World} (h : ∀ w a, (f w a).scene = w.scene)
    (items : List α) : (items.foldl f w).scene = w.scene := by
  induction items generalizing w with
  | nil => rfl
  | cons item rest ih => exact (ih (f w item)).trans (h w item)

@[simp] theorem scene_send (source : Source) (batch : List Bid) :
    (w.send setting source batch).2.scene = w.scene := by
  unfold send
  split <;> rfl

@[simp] theorem scene_deliver (source : Source) (delivery : Feed.Delivery) :
    (w.deliver setting source delivery).scene = w.scene := by
  unfold deliver
  refine scene_foldl _ (fun w batch => ?_) _
  have hsend := scene_send setting w source batch
  cases hanswer : w.send setting source batch with
  | mk taken next =>
      rw [hanswer] at hsend
      cases taken <;> exact hsend

@[simp] theorem scene_pollRelays (slot : Chain.Slot) (offsetMs : Int64) :
    (w.pollRelays setting slot offsetMs).scene = w.scene := by
  unfold pollRelays
  refine scene_foldl (w.report [.polling slot offsetMs]) (fun w request => ?_) _
  rfl

@[simp] theorem scene_endPoller : w.endPoller.scene = w.scene := by
  unfold endPoller
  dsimp only
  split <;> rfl

@[simp] theorem scene_stepPoller : (w.stepPoller setting).scene = w.scene := by
  unfold stepPoller
  cases w.poller.step (w.clock setting) with
  | mk act poller =>
      cases act with
      | poll | miss | none =>
          dsimp only
          split
          · simp
          · split
            · simp
            · split <;> simp

@[simp] theorem scene_startPoller : (w.startPoller setting).scene = w.scene := rfl

@[simp] theorem scene_schedule (s : Feed.Schedule) : (w.schedule setting s).scene = w.scene := by
  unfold schedule
  refine scene_foldl w (fun w request => ?_) _
  rfl

@[simp] theorem scene_startFollower : (w.startFollower setting).scene = w.scene := by
  unfold startFollower
  dsimp only
  split <;> rfl

@[simp] theorem scene_connect : w.connect.scene = w.scene := by
  unfold connect
  dsimp only
  split <;> rfl

@[simp] theorem scene_startStream : w.startStream.scene = w.scene := by
  unfold startStream
  split <;> rfl

@[simp] theorem scene_settle : (w.settle setting).scene = w.scene := by
  unfold settle
  split <;> rfl

@[simp] theorem scene_checkEnd : w.checkEnd.scene = w.scene := by
  unfold checkEnd
  dsimp only
  split
  all_goals split <;> rfl

@[simp] theorem scene_checkReceiver : w.checkReceiver.scene = w.scene := by
  unfold checkReceiver
  split <;> simp

/-! ## What they do -/

theorem scene_follow (event : Feed.FollowerEvent String) : (w.follow setting event).scene
    = (w.scene.tell setting.beacon.node (setting.relays.map (·.entry)) event).2 := by
  unfold follow
  cases w.scene.tell setting.beacon.node (setting.relays.map (·.entry)) event with
  | mk acts scene =>
      -- all but the first step of this only notes down and reports
      dsimp only
      split
      all_goals
        refine (scene_foldl _ (fun w delay => ?_) _).trans ?_
        · rfl
        · exact scene_foldl _ (fun w s => scene_schedule setting w s) _

theorem scene_cancel : (w.cancel setting).scene = w.scene.cancel.abandonAll := by
  unfold cancel
  dsimp only
  split
  all_goals simp [apply_ite World.scene]

/-! ## The account -/

variable {setting}

/-- The tasks of a world are accounted for. -/
def Tallies (setting : Setting) (w : World) : Prop :=
  Accounted (setting.relays.map (·.entry)) w.scene

namespace Tallies

variable {w w' : World}

/-- Worlds with the same tasks. -/
theorem congr (h : Tallies setting w) (hscene : w'.scene = w.scene) : Tallies setting w' := by
  unfold Tallies
  rw [hscene]
  exact h

theorem follow (h : Tallies setting w) (event : Feed.FollowerEvent String) :
    Tallies setting (w.follow setting event) := by
  unfold Tallies
  rw [scene_follow]
  exact Accounted.tell h _ event

theorem awaitHead (h : Tallies setting w) (heads : List HeadScript) (holds : Bool) :
    Tallies setting (w.awaitHead setting heads holds) := by
  unfold World.awaitHead
  split
  · exact h.congr rfl
  · split
    · exact h
    · exact h.follow .ended

theorem subscribe (h : Tallies setting w) : Tallies setting (w.subscribe setting) := by
  have hcalled : Tallies setting
      { w.call ["subscribe"] with subscriptions := w.subscriptions + 1 } := h.congr rfl
  unfold World.subscribe
  dsimp only
  split
  · exact hcalled.follow .refused
  · exact (hcalled.follow .subscribed).awaitHead _ _

theorem receiveHead (h : Tallies setting w) (head : Except String Beacon.Head)
    (rest : List HeadScript) (holds : Bool) :
    Tallies setting (w.receiveHead setting head rest holds) := by
  have hfollowed := h.follow (.delivered head)
  unfold World.receiveHead
  dsimp only
  split
  · exact hfollowed.awaitHead rest holds
  · exact hfollowed

theorem request (h : Tallies setting w) (relay : RelayScript) (s : Feed.Schedule)
    (began : Int64) : Tallies setting (w.request setting relay s began) := by
  have hwoken := Accounted.wake h (w.scene.waiting.idxOf ⟨relay.entry, s⟩) began
    (w.clock setting)
  unfold World.request
  dsimp only
  split
  · next hwake =>
      rw [hwake] at hwoken
      exact hwoken
  · exact h

/-- A cancellation has all tasks give up that are left. -/
theorem cancel (h : Tallies setting w) : Tallies setting (w.cancel setting) := by
  unfold Tallies
  rw [scene_cancel]
  exact (Accounted.cancel h).abandonAll

/-- **Whatever happens**, the tasks stay accounted for. -/
theorem happen (h : Tallies setting w) (what : Happening) :
    Tallies setting (w.happen setting what) := by
  unfold World.happen
  cases what with
  | pollerStep => exact h.congr (scene_stepPoller setting w)
  | traces | header => exact h.congr (scene_deliver setting w _ _)
  | subscribe => exact h.subscribe
  | head head rest holds => exact h.receiveHead head rest holds
  | request relay s began => exact h.request relay s began
  | connect => exact h.congr (scene_connect w)
  | cancel => exact h.cancel
  | housekeeping =>
      dsimp only
      split
      · exact h
      · exact h.congr rfl

/-- **So they do in a run.** -/
theorem run (h : Tallies setting w) (fuel : Nat) : Tallies setting (w.run setting fuel) := by
  induction fuel generalizing w with
  | zero => exact h
  | succ fuel ih =>
      have hsettled : Tallies setting (w.settle setting).checkEnd := h.congr (by simp)
      unfold World.run
      split
      · exact h
      · exact hsettled
      · next item rest _ _ =>
          have hdue : Tallies setting
              (if w.now < item.time then (w.settle setting).checkEnd else w) := by
            split
            · exact hsettled
            · exact h
          dsimp only
          generalize (if w.now < item.time then (w.settle setting).checkEnd else w) = due at *
          split
          · exact hdue
          · have hnow : Tallies setting { due with now := item.time, agenda := rest } := hdue
            exact ih ((hnow.happen item.what).congr (scene_checkReceiver _))

end Tallies

end World

namespace Setting

open World (Tallies)

@[simp] theorem scene_startSources (setting : Setting) (sources : List Source) (w : World) :
    (setting.startSources sources w).scene = w.scene := by
  unfold startSources
  simp [apply_ite World.scene]

theorem tallies_atStart (setting : Setting) (consumer : Consumer) :
    Tallies setting (setting.atStart consumer) := by
  have hbegin := Accounted.begin (setting.relays.map (·.entry)) ([] : List Beacon.Question)
  unfold atStart
  dsimp only
  split
  · exact hbegin.cancel
  · exact hbegin

/--
**In every rehearsal all tasks are accounted for, and none is early.**

Whatever relays, beacon node and sink are scripted to do: there is one task for each slot that the
follower scheduled and each relay, no task requests its header before its time, and none gives up
unless it was cancelled.
-/
theorem tasks_of_rehearsals (setting : Setting) :
    (∀ closeAfter, Tallies setting (setting.runFollower closeAfter))
      ∧ (∀ closeAfter, Tallies setting (setting.runPoller closeAfter))
      ∧ ∀ sources hasBeaconNode, Tallies setting (setting.runCollector sources hasBeaconNode) := by
  have hstart := setting.tallies_atStart
  refine ⟨fun closeAfter => ?_, fun closeAfter => ?_, fun sources hasBeaconNode => ?_⟩
  · have hfollower : Tallies setting
        ((setting.atStart (.receiver closeAfter)).startFollower setting).checkReceiver :=
      (hstart (.receiver closeAfter)).congr (by simp)
    exact hfollower.run _
  · have hpoller : Tallies setting
        ((setting.atStart (.receiver closeAfter)).startPoller setting) :=
      (hstart (.receiver closeAfter)).congr rfl
    exact hpoller.run _
  · have hcollector := hstart (.collector
      { recorder := { sink := {} }, isCancelled := setting.runMs == 0 })
    unfold runCollector
    dsimp only
    split
    · exact (hstart _).congr rfl
    · split
      · exact (hstart _).congr rfl
      · exact World.Tallies.run (hcollector.congr (by simp)) _

end Setting

end BidArchive.Rehearsal
