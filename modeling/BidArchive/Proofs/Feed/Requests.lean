import Mathlib.Data.List.Perm.Basic
import BidArchive.Feed.Requests
import BidArchive.Proofs.Feed.Heads

/-!
# Requests in time

Subscriptions come and go without any effect on what was scheduled. Whatever the follower
schedules, its tasks are all accounted for and none was early (`Accounted`). The invariant
`Orderly` adds that the slots scheduled rise; every incident keeps it (`Orderly.meet`), and
what an incident does to schedules and tasks is exactly what was found for it
(`effect_meet`).
-/

namespace BidArchive.Feed

open Chain (Slot)
open Beacon (Node readHead)

variable {σ ε φ : Type}

variable {node : Node σ ε} {f : Follower σ} {event : FollowerEvent φ} {scene : Scene σ}
  {relays : List Relay.Entry} {request : HeaderRequest} {began now : Int64}

/-- **Who has slept enough is not early.** -/
theorem le_of_slept (h : Slept request began now) :
    request.schedule.atMs.toInt ≤ now.toInt := by
  -- the distance is clamped to a word, but it fits one
  obtain ⟨hfits, hslept⟩ := h
  unfold sleepMs at hslept
  omega

/-! ## What the follower schedules -/

/-- Heads come from events with data that can be read. -/
theorem News.meaning_eq_delivered_iff {news : News} {head : Beacon.Head} :
    news.meaning = .delivered (.ok head)
      ↔ ∃ data, news = .event data ∧ readHead data = .ok head := by
  cases news <;> simp [meaning]

theorem News.inRange_of_meaning {news : News} {head : Beacon.Head}
    (h : news.meaning = .delivered (.ok head)) : head.slot.inRange = true := by
  obtain ⟨data, _, hread⟩ := meaning_eq_delivered_iff.mp h
  exact Beacon.inRange_of_readHead hread

theorem schedule?_notices (notices : List Notice) :
    (notices.map FollowerAct.notice).filterMap FollowerAct.schedule? = [] := by
  induction notices with
  | nil => rfl
  | cons notice rest ih => exact ih

/-- Whatever is no head leaves the follower's memory of heads alone. -/
theorem Follower.take_other (node : Node σ ε) (f : Follower σ)
    (h : ∀ head, event ≠ .delivered (.ok head)) :
    (f.take node event).1.filterMap FollowerAct.schedule? = []
      ∧ (f.take node event).2.heads = f.heads
      ∧ (f.take node event).2.isCrashed = f.isCrashed := by
  unfold take
  split
  · exact ⟨rfl, rfl, rfl⟩
  · cases event with
    | subscribed | refused | ended => exact ⟨rfl, rfl, rfl⟩
    | delivered head =>
        cases head with
        | error fault => exact ⟨rfl, rfl, rfl⟩
        | ok head => exact absurd rfl (h head)

/-- **What an event makes the follower schedule**: the slot after a head for which all is found,
and nothing else. -/
theorem Follower.take_cases (hn : node.InRange) (hd : f.heads.duties.InRange)
    (hc : f.isCrashed = false)
    (hr : ∀ head, event = .delivered (.ok head) → head.slot.inRange = true) :
    (f.take node event).2.isCrashed = false ∧ (f.take node event).2.heads.duties.InRange
      ∧ ((∃ head schedule, event = .delivered (.ok head) ∧ Finds node head f.heads f.node schedule
          ∧ (f.take node event).1.filterMap FollowerAct.schedule? = [schedule]
          ∧ (f.take node event).2.heads.scheduled = some schedule.slot
          ∧ (f.take node event).2.heads.duties.proposer? schedule.slot = some schedule.proposer)
        ∨ ((∀ head schedule, event = .delivered (.ok head) →
              ¬ Finds node head f.heads f.node schedule)
          ∧ (f.take node event).1.filterMap FollowerAct.schedule? = []
          ∧ (f.take node event).2.heads.scheduled = f.heads.scheduled)) := by
  by_cases hhead : ∃ head, event = .delivered (.ok head)
  · obtain ⟨head, rfl⟩ := hhead
    have htake : f.take node (.delivered (.ok head) : FollowerEvent φ) = f.follow node head := by
      unfold take
      rw [hc]
      rfl
    rw [htake]
    unfold follow
    dsimp only
    rcases HeadState.take_cases hn hd (hr head rfl) f.node with
      ⟨schedule, hfinds, hout, hstate⟩ | ⟨hnone, hout, hsame, hduties⟩
    · rw [hout, hstate]
      refine ⟨hc, hd.refresh hn _ _, Or.inl ⟨head, schedule, rfl, hfinds, ?_, rfl, ?_⟩⟩
      · dsimp only
        rw [List.filterMap_append, schedule?_notices]
        rfl
      · exact hfinds.proposer
    · rw [hout]
      refine ⟨hc, hduties, Or.inr ⟨?_, schedule?_notices _, hsame⟩⟩
      rintro _ schedule h
      obtain rfl : head = _ := Except.ok.inj (FollowerEvent.delivered.inj h)
      exact hnone schedule
  · rw [not_exists] at hhead
    obtain ⟨hacts, hheads, hcrashed⟩ := take_other node f hhead
    refine ⟨hcrashed.trans hc, ?_, Or.inr ⟨fun head _ h => absurd h (hhead head), hacts, ?_⟩⟩
    · rw [hheads]
      exact hd
    · rw [hheads]

theorem Scene.tell_of_acts {schedules : List Schedule}
    (h : (scene.follower.take node event).1.filterMap FollowerAct.schedule? = schedules) :
    (scene.tell node relays event).2 = { scene with
      follower := (scene.follower.take node event).2
      schedules := scene.schedules ++ schedules
      waiting := scene.waiting ++ schedules.flatMap (·.requests relays) } := by
  rw [← h]
  rfl

/-! ## What tasks do -/

theorem Scene.wake_cases (scene : Scene σ) (task : Nat) (began now : Int64) :
    (∃ request, scene.waiting[task]? = some request ∧ Slept request began now
        ∧ scene.wake task began now = (some request, { scene with
          waiting := scene.waiting.eraseIdx task
          made := scene.made ++ [(request, now)] }))
      ∨ (∀ request, scene.waiting[task]? = some request → ¬ Slept request began now)
        ∧ scene.wake task began now = (none, scene) := by
  unfold wake
  cases scene.waiting[task]? with
  | none => exact .inr ⟨fun _ h => absurd h (by simp), rfl⟩
  | some request =>
      by_cases hs : Slept request began now
      · exact .inl ⟨request, rfl, hs, if_pos hs⟩
      · exact .inr ⟨fun _ h => Option.some.inj h ▸ hs, if_neg hs⟩

theorem Scene.abandon_cases (scene : Scene σ) (task : Nat) :
    (∃ request, scene.isCancelled = true ∧ scene.waiting[task]? = some request
        ∧ scene.abandon task = { scene with
          waiting := scene.waiting.eraseIdx task
          dropped := request :: scene.dropped })
      ∨ (scene.isCancelled = true → scene.waiting[task]? = none)
        ∧ scene.abandon task = scene := by
  unfold abandon
  cases hc : scene.isCancelled with
  | false => exact .inr ⟨fun h => absurd h (by simp), rfl⟩
  | true =>
      cases hw : scene.waiting[task]? with
      | none => exact .inr ⟨fun _ => rfl, rfl⟩
      | some request => exact .inl ⟨request, rfl, rfl, rfl⟩

/-- What the follower does not hear leaves it and the schedules as they were. -/
theorem Scene.meet_other (node : Node σ ε) (relays : List Relay.Entry) (scene : Scene σ)
    {incident : Incident} (h : ∀ news, incident ≠ .news news) :
    (scene.meet node relays incident).schedules = scene.schedules
      ∧ (scene.meet node relays incident).follower = scene.follower := by
  unfold meet
  cases incident with
  | news news => exact absurd rfl (h news)
  | cancel => exact ⟨rfl, rfl⟩
  | wake task began now =>
      rcases scene.wake_cases task began now with ⟨_, _, _, hwake⟩ | ⟨_, hwake⟩
      all_goals
        dsimp only
        rw [hwake]
        exact ⟨rfl, rfl⟩
  | abandon task =>
      rcases scene.abandon_cases task with ⟨_, _, _, habandon⟩ | ⟨_, habandon⟩
      all_goals
        dsimp only
        rw [habandon]
        exact ⟨rfl, rfl⟩

/-! ## The account of the tasks -/

/-- All tasks are accounted for, whatever the follower schedules. -/
structure Accounted (relays : List Relay.Entry) (scene : Scene σ) : Prop where
  /-- There is one task for each relay and slot scheduled. -/
  complete : (scene.made.map (·.1) ++ (scene.waiting ++ scene.dropped)).Perm
    (scene.schedules.flatMap (·.requests relays))
  /-- No request was early. -/
  punctual : ∀ p ∈ scene.made, p.1.schedule.atMs.toInt ≤ p.2.toInt
  /-- None was dropped but for a cancellation. -/
  kept : scene.isCancelled = false → scene.dropped = []

namespace Accounted

theorem begin (relays : List Relay.Entry) (s : σ) :
    Accounted relays { follower := { node := s } } where
  complete := List.Perm.refl _
  punctual := fun _ h => absurd h List.not_mem_nil
  kept := fun _ => rfl

/-- What is scheduled has its tasks. -/
theorem tell (h : Accounted relays scene) (node : Node σ ε) (event : FollowerEvent φ) :
    Accounted relays (scene.tell node relays event).2 := by
  rw [Scene.tell_of_acts rfl]
  refine ⟨?_, h.punctual, h.kept⟩
  -- the new tasks come before those that were dropped, which does not matter
  dsimp only
  rw [List.flatMap_append]
  refine List.Perm.trans ?_ (h.complete.append_right _)
  rw [List.append_assoc, List.append_assoc, List.append_assoc]
  exact (List.perm_append_comm.append_left _).append_left _

/-- A task that is done leaves the others. -/
theorem perm_of_getElem? {waiting : List HeaderRequest} {task : Nat}
    (h : waiting[task]? = some request) : waiting.Perm (request :: waiting.eraseIdx task) := by
  obtain ⟨hlt, rfl⟩ := List.getElem?_eq_some_iff.mp h
  exact (List.getElem_cons_eraseIdx_perm hlt).symm

/-- **A task that wakes up** is in time. -/
theorem wake (h : Accounted relays scene) (task : Nat) (began now : Int64) :
    Accounted relays (scene.wake task began now).2 := by
  rcases scene.wake_cases task began now with
    ⟨request, hrequest, hslept, hwake⟩ | ⟨-, hwake⟩
  · rw [hwake]
    refine ⟨?_, ?_, h.kept⟩
    · refine List.Perm.trans ?_ h.complete
      dsimp only
      rw [List.map_append, List.append_assoc]
      exact ((perm_of_getElem? hrequest).symm.append_right _).append_left _
    · intro p hp
      rcases List.mem_append.mp hp with hp | hp
      · exact h.punctual p hp
      · rw [List.mem_singleton.mp hp]
        exact le_of_slept hslept
  · rw [hwake]
    exact h

theorem cancel (h : Accounted relays scene) : Accounted relays scene.cancel :=
  ⟨h.complete, h.punctual, fun hc => Bool.noConfusion hc⟩

/-- **A task that gives up** was cancelled. -/
theorem abandon (h : Accounted relays scene) (task : Nat) :
    Accounted relays (scene.abandon task) := by
  rcases scene.abandon_cases task with ⟨request, hc, hrequest, habandon⟩ | ⟨-, habandon⟩
  · rw [habandon]
    refine ⟨?_, h.punctual, fun hk => Bool.noConfusion (hk.symm.trans hc)⟩
    refine List.Perm.trans ?_ h.complete
    refine List.Perm.append_left _ ?_
    exact List.perm_middle.trans ((perm_of_getElem? hrequest).symm.append_right _)
  · rw [habandon]
    exact h

theorem abandonAll (h : Accounted relays scene) : Accounted relays scene.abandonAll := by
  unfold Scene.abandonAll
  generalize scene.waiting = tasks
  induction tasks generalizing scene with
  | nil => exact h
  | cons _ rest ih => exact ih (h.abandon 0)

/-- **Every incident keeps the account.** -/
theorem meet (h : Accounted relays scene) (node : Node σ ε) (incident : Incident) :
    Accounted relays (scene.meet node relays incident) := by
  cases incident with
  | news news => exact h.tell node news.meaning
  | cancel => exact h.cancel
  | wake task began now => exact h.wake task began now
  | abandon task => exact h.abandon task

end Accounted

/-! ## The invariant -/

/-- What holds of follower and tasks at any time. -/
structure Orderly (relays : List Relay.Entry) (scene : Scene σ) : Prop
    extends Accounted relays scene where
  /-- No calculation overflowed. -/
  running : scene.follower.isCrashed = false
  /-- Proposers are known for slots in range only. -/
  known : scene.follower.heads.duties.InRange
  /-- The slots scheduled rise. -/
  rising : (scene.schedules.map (·.slot)).Pairwise (· < ·)
  /-- None lies behind the one that is remembered as the last. -/
  covered : ∀ s ∈ scene.schedules, ∃ last, scene.follower.heads.scheduled = some last
    ∧ s.slot ≤ last
  /-- Headers are meant to be requested a second into their slot. -/
  timed : ∀ s ∈ scene.schedules, ∃ start, s.slot.start? = some start
    ∧ s.atMs.toInt = start.toInt + 1000

namespace Orderly

theorem begin (relays : List Relay.Entry) (s : σ) :
    Orderly relays { follower := { node := s } } where
  toAccounted := .begin relays s
  running := rfl
  known := Beacon.inRange_empty
  rising := List.Pairwise.nil
  covered := fun _ h => absurd h List.not_mem_nil
  timed := fun _ h => absurd h List.not_mem_nil

variable {next : Scene σ} {schedule : Schedule}

/-- Nothing was scheduled. -/
theorem retold (h : Orderly relays scene) (haccounted : Accounted relays next)
    (hschedules : next.schedules = scene.schedules)
    (hrunning : next.follower.isCrashed = false) (hknown : next.follower.heads.duties.InRange)
    (hsame : next.follower.heads.scheduled = scene.follower.heads.scheduled) :
    Orderly relays next where
  toAccounted := haccounted
  running := hrunning
  known := hknown
  rising := by
    rw [hschedules]
    exact h.rising
  covered := by
    rw [hschedules, hsame]
    exact h.covered
  timed := by
    rw [hschedules]
    exact h.timed

/-- A slot behind the last one was scheduled. -/
theorem extended (h : Orderly relays scene) (haccounted : Accounted relays next)
    (hschedules : next.schedules = scene.schedules ++ [schedule])
    (hrunning : next.follower.isCrashed = false) (hknown : next.follower.heads.duties.InRange)
    (hlast : next.follower.heads.scheduled = some schedule.slot)
    (hahead : ∀ last, scene.follower.heads.scheduled = some last → last < schedule.slot)
    (htimed : ∃ start, schedule.slot.start? = some start
      ∧ schedule.atMs.toInt = start.toInt + 1000) :
    Orderly relays next := by
  have hbehind : ∀ s ∈ scene.schedules, s.slot < schedule.slot := by
    intro s hs
    -- by way of the last slot scheduled
    obtain ⟨last, hsched, hle⟩ := h.covered s hs
    have hlt := hahead last hsched
    rw [Slot.le_iff] at hle
    rw [Slot.lt_iff] at *
    omega
  refine ⟨haccounted, hrunning, hknown, ?rising, ?covered, ?timed⟩
  case rising =>
    rw [hschedules, List.map_append, List.pairwise_append]
    refine ⟨h.rising, List.pairwise_singleton _ _, ?_⟩
    rintro a ha b hb
    obtain ⟨s, hs, rfl⟩ := List.mem_map.mp ha
    obtain rfl := List.mem_singleton.mp hb
    exact hbehind s hs
  case covered =>
    intro s hs
    rw [hschedules] at hs
    refine ⟨schedule.slot, hlast, ?_⟩
    rcases List.mem_append.mp hs with hs | hs
    · exact Int.le_of_lt (hbehind s hs)
    · rw [List.mem_singleton.mp hs]
      exact Int.le_refl _
  case timed =>
    intro s hs
    rw [hschedules] at hs
    rcases List.mem_append.mp hs with hs | hs
    · exact h.timed s hs
    · rw [List.mem_singleton.mp hs]
      exact htimed

/-- **The follower keeps order**, whatever it is told. -/
theorem tell (h : Orderly relays scene) (hn : node.InRange)
    (hr : ∀ head, event = .delivered (.ok head) → head.slot.inRange = true) :
    Orderly relays (scene.tell node relays event).2 := by
  have haccounted := h.toAccounted.tell node event
  obtain ⟨hrunning, hknown, hcases⟩ := Follower.take_cases hn h.known h.running hr
  rcases hcases with ⟨head, schedule, _, hfinds, hacts, hlast, _⟩ | ⟨_, hacts, hsame⟩
  · rw [Scene.tell_of_acts hacts] at haccounted ⊢
    exact h.extended haccounted rfl hrunning hknown hlast hfinds.ahead hfinds.moment
  · rw [Scene.tell_of_acts hacts] at haccounted ⊢
    exact h.retold haccounted (List.append_nil _) hrunning hknown hsame

/-- **Every incident keeps order.** -/
theorem meet (h : Orderly relays scene) (hn : node.InRange) (incident : Incident) :
    Orderly relays (scene.meet node relays incident) := by
  by_cases hnews : ∃ news, incident = .news news
  · obtain ⟨news, rfl⟩ := hnews
    exact h.tell hn fun _ => News.inRange_of_meaning
  · rw [not_exists] at hnews
    obtain ⟨hschedules, hfollower⟩ := Scene.meet_other node relays scene hnews
    refine h.retold (h.toAccounted.meet node incident) hschedules ?_ ?_ ?_
    all_goals rw [hfollower]
    · exact h.running
    · exact h.known

/-- **So does a run.** -/
theorem play (h : Orderly relays scene) (hn : node.InRange) (incidents : List Incident) :
    Orderly relays (scene.play node relays incidents) := by
  induction incidents generalizing scene with
  | nil => exact h
  | cons incident rest ih => exact ih (h.meet hn incident)

end Orderly

/-! ## Runs -/

/-- What an incident may do to schedules and tasks. -/
inductive Effect (node : Node σ ε) (relays : List Relay.Entry) (scene next : Scene σ) :
    Incident → Prop
  /-- A head for which all is found adds its schedule and a task for every relay. -/
  | scheduled {data : String} {head : Beacon.Head} {schedule : Schedule}
      (read : readHead data = .ok head)
      (finds : Finds node head scene.follower.heads scene.follower.node schedule)
      (adds : next = { scene with
        follower := next.follower
        schedules := scene.schedules ++ [schedule]
        waiting := scene.waiting ++ relays.map fun relay => ⟨relay, schedule⟩ })
      (last : next.follower.heads.scheduled = some schedule.slot)
      (proposer : next.follower.heads.duties.proposer? schedule.slot = some schedule.proposer) :
      Effect node relays scene next (.news (.event data))
  /-- All other news add nothing and leave the last slot scheduled as it was. -/
  | skipped {news : News}
      (skips : ∀ data head schedule, news = .event data → readHead data = .ok head →
        ¬ Finds node head scene.follower.heads scene.follower.node schedule)
      (same : next = { scene with follower := next.follower })
      (last : next.follower.heads.scheduled = scene.follower.heads.scheduled) :
      Effect node relays scene next (.news news)
  /-- A task that has slept enough makes its request. -/
  | woken {task : Nat} {began now : Int64} {request : HeaderRequest}
      (waits : scene.waiting[task]? = some request) (slept : Slept request began now)
      (makes : next = { scene with
        waiting := scene.waiting.eraseIdx task
        made := scene.made ++ [(request, now)] }) :
      Effect node relays scene next (.wake task began now)
  /-- No task wakes up before. -/
  | asleep {task : Nat} {began now : Int64}
      (sleeps : ∀ request, scene.waiting[task]? = some request → ¬ Slept request began now)
      (same : next = scene) : Effect node relays scene next (.wake task began now)
  | cancelled (cancels : next = { scene with isCancelled := true }) :
      Effect node relays scene next .cancel
  /-- A task that was cancelled drops its request. -/
  | abandoned {task : Nat} {request : HeaderRequest} (late : scene.isCancelled = true)
      (waits : scene.waiting[task]? = some request)
      (drops : next = { scene with
        waiting := scene.waiting.eraseIdx task
        dropped := request :: scene.dropped }) :
      Effect node relays scene next (.abandon task)
  /-- No other task does. -/
  | kept {task : Nat} (keeps : scene.isCancelled = true → scene.waiting[task]? = none)
      (same : next = scene) : Effect node relays scene next (.abandon task)

/-- **Every incident has one of these effects.** -/
theorem effect_meet (h : Orderly relays scene) (hn : node.InRange) (incident : Incident) :
    Effect node relays scene (scene.meet node relays incident) incident := by
  unfold Scene.meet
  cases incident with
  | news news =>
      have hr : ∀ head, news.meaning = .delivered (.ok head) → head.slot.inRange = true :=
        fun _ => News.inRange_of_meaning
      obtain ⟨_, _, hcases⟩ := Follower.take_cases hn h.known h.running hr
      dsimp only
      rcases hcases with ⟨head, schedule, he, hfinds, hacts, hlast, hknown⟩ | ⟨hnone, hacts, hsame⟩
      · obtain ⟨data, rfl, hread⟩ := News.meaning_eq_delivered_iff.mp he
        rw [Scene.tell_of_acts hacts, List.flatMap_singleton]
        exact .scheduled hread hfinds rfl hlast hknown
      · rw [Scene.tell_of_acts hacts, List.append_nil, List.flatMap_nil, List.append_nil]
        refine .skipped (fun data head schedule hi hread => ?_) rfl hsame
        exact hnone head schedule (News.meaning_eq_delivered_iff.mpr ⟨data, hi, hread⟩)
  | wake task began now =>
      rcases scene.wake_cases task began now with
        ⟨request, hrequest, hslept, hwake⟩ | ⟨hsleeps, hwake⟩
      · exact .woken hrequest hslept (congrArg Prod.snd hwake)
      · exact .asleep hsleeps (congrArg Prod.snd hwake)
  | cancel => exact .cancelled rfl
  | abandon task =>
      rcases scene.abandon_cases task with ⟨request, hc, hrequest, habandon⟩ | ⟨hkeeps, habandon⟩
      · exact .abandoned hc hrequest habandon
      · exact .kept hkeeps habandon

/--
**Every slot is scheduled once, and its headers are requested in time.**

Whatever the beacon node sends and replies, whatever else happens and in which order: the slots
scheduled rise, there is one task for every slot scheduled and every relay, no task requests its
header before the first second of the slot is over, and none gives up unless it was cancelled. An
incident adds to the schedules if and only if it is a head for which all is found that it takes,
and leaves the last slot scheduled as it was if not.
-/
theorem headers_of_run (base : String) (reply : Beacon.Question → σ → Http.Reply × σ)
    (relays : List Relay.Entry) (s : σ) (incidents : List Incident) :
    (Scene.after base reply relays s incidents).follower.isCrashed = false
      ∧ ((Scene.after base reply relays s incidents).schedules.map (·.slot)).Pairwise (· < ·)
      ∧ ((Scene.after base reply relays s incidents).made.map (·.1)
          ++ ((Scene.after base reply relays s incidents).waiting
            ++ (Scene.after base reply relays s incidents).dropped)).Perm
          ((Scene.after base reply relays s incidents).schedules.flatMap (·.requests relays))
      ∧ (∀ p ∈ (Scene.after base reply relays s incidents).made,
          ∃ start, p.1.schedule.slot.start? = some start ∧ start.toInt + 1000 ≤ p.2.toInt)
      ∧ ((Scene.after base reply relays s incidents).isCancelled = false →
          (Scene.after base reply relays s incidents).dropped = [])
      ∧ ∀ before incident after, incidents = before ++ incident :: after →
          Effect (Node.overHttp base reply) relays (Scene.after base reply relays s before)
            (Scene.after base reply relays s (before ++ [incident])) incident := by
  have hn := Beacon.inRange_overHttp base reply
  have h : ∀ incidents, Orderly relays (Scene.after base reply relays s incidents) :=
    fun incidents => (Orderly.begin relays s).play hn incidents
  refine ⟨(h incidents).running, (h incidents).rising, (h incidents).complete, fun p hp => ?_,
    (h incidents).kept, fun before incident after _ => ?_⟩
  · -- a request that was made belongs to a schedule, and schedules are timed
    have hmem : p.1 ∈ (Scene.after base reply relays s incidents).schedules.flatMap
        (·.requests relays) :=
      (h incidents).complete.subset (List.mem_append_left _ (List.mem_map_of_mem hp))
    obtain ⟨schedule, hschedule, hrequest⟩ := List.mem_flatMap.mp hmem
    obtain ⟨relay, _, hp_eq⟩ := List.mem_map.mp hrequest
    obtain ⟨start, hstart, hat⟩ := (h incidents).timed schedule hschedule
    have hpunctual := (h incidents).punctual p hp
    rw [← hp_eq] at hpunctual ⊢
    exact ⟨start, hstart, hat ▸ hpunctual⟩
  · have hnext : Scene.after base reply relays s (before ++ [incident])
        = (Scene.after base reply relays s before).meet (Node.overHttp base reply) relays
            incident := List.foldl_append
    rw [hnext]
    exact effect_meet (h before) hn incident

/-- A server that lists one proposer, of slot 8, and hands out the same block for every root. -/
def oneProposer : Beacon.Question → Unit → Http.Reply × Unit
  | .duties _, _ => (.response ⟨.ok, none, "[[[\"0xAB\",\"1\",\"8\"]]]".toUTF8.toList⟩, ())
  | .blockHash _, _ => (.response ⟨.ok, none, "[[[[[\"0xp\"]]]]]".toUTF8.toList⟩, ())

/-- The head before slot 8 comes twice, in two subscriptions. A task wakes up a millisecond early,
and then in time. -/
def repeatedHead : List Incident :=
  [.news .subscribed, .news (.event "[\"7\",\"r\"]"), .wake 0 1606824110000 1606824119999,
    .news .ended, .news .subscribed, .news (.event "[\"7\",\"r\"]"),
    .wake 0 1606824110000 1606824120000]

/-- Slot 8 is scheduled once, and its header requested when its first second is over. -/
theorem headers_of_repeated_head :
    (Scene.after "" oneProposer [⟨"relay", "", none⟩] () repeatedHead).schedules.map (·.slot)
        = [⟨8⟩]
      ∧ (Scene.after "" oneProposer [⟨"relay", "", none⟩] () repeatedHead).waiting = []
      ∧ (Scene.after "" oneProposer [⟨"relay", "", none⟩] () repeatedHead).made.map (·.2)
        = [1606824120000]
      ∧ ∀ p ∈ (Scene.after "" oneProposer [⟨"relay", "", none⟩] () repeatedHead).made,
          ∃ start, p.1.schedule.slot.start? = some start ∧ start.toInt + 1000 ≤ p.2.toInt := by
  obtain ⟨-, -, -, htimed, -⟩ :=
    headers_of_run "" oneProposer [⟨"relay", "", none⟩] () repeatedHead
  exact ⟨by decide +kernel, by decide +kernel, by decide +kernel, htimed⟩

end BidArchive.Feed
