import BidArchive.Feed.Reader
import BidArchive.Proofs.Feed.Forwarding
import BidArchive.Proofs.Feed.Range
import Mathlib.Data.List.Induction

/-!
# Delays between attempts

A retry delay only knows of waits and of successes. A wait doubles it up to the longest delay and a
success begins anew, so that it tells how many waits there were since the last success
(`intervalMs_afterAll`), however many there were before.

The reader of the stream and the follower of heads both take their delays from it. What comes of
their attempts is a list of waits and successes (`Attempt.steps`, `Incident.steps`), and by
induction over what happened to them their delays are where these lead (`retry_of_afterAll`,
`retry_play`). Neither gives up: the reader ends only with a bid that nobody takes, the follower
never.
-/

namespace BidArchive.Feed

/-! ## Waits and successes -/

/-- What happens to a retry delay. -/
inductive RetryStep
  | wait
  | success
deriving DecidableEq, Repr

/-- The delay after a step. -/
def Retry.after (retry : Retry) : RetryStep → Retry
  | .wait => retry.next.2
  | .success => retry.reset

/-- The delay after steps in order. -/
def Retry.afterAll (retry : Retry) (steps : List RetryStep) : Retry := steps.foldl Retry.after retry

theorem Retry.afterAll_append (retry : Retry) (steps more : List RetryStep) :
    retry.afterAll (steps ++ more) = (retry.afterAll steps).afterAll more := List.foldl_append

/-- How many waits there were since the last success, or in all if there was none. -/
def waitsSince (steps : List RetryStep) : Nat :=
  (steps.reverse.takeWhile (· = RetryStep.wait)).length

theorem waitsSince_append_wait (steps : List RetryStep) :
    waitsSince (steps ++ [.wait]) = waitsSince steps + 1 := by
  simp [waitsSince]

theorem waitsSince_append_success (steps : List RetryStep) :
    waitsSince (steps ++ [.success]) = 0 := by
  simp [waitsSince]

/-- No step changes the policy. -/
theorem policy_afterAll (steps : List RetryStep) :
    (Retry.fresh.afterAll steps).policy = reconnecting := by
  induction steps using List.reverseRecOn with
  | nil => rfl
  | append_singleton steps step ih =>
      rw [Retry.afterAll_append]
      cases step with
      | success => exact ih
      | wait =>
          show (Retry.fresh.afterAll steps).next.2.policy = _
          rw [Retry.next_reconnecting ih]
          exact ih

/-- **The interval doubles with every wait since the last success**, up to the longest delay. -/
theorem intervalMs_afterAll (steps : List RetryStep) :
    (Retry.fresh.afterAll steps).intervalMs = min (5000 * 2 ^ waitsSince steps) 120000 := by
  -- on the last step: only the steps since the last success count
  induction steps using List.reverseRecOn with
  | nil => rfl
  | append_singleton steps step ih =>
      rw [Retry.afterAll_append]
      cases step with
      | success =>
          rw [waitsSince_append_success]
          show (Retry.fresh.afterAll steps).policy.firstMs = _
          rw [policy_afterAll]
          rfl
      | wait =>
          rw [waitsSince_append_wait, Nat.pow_succ]
          show (Retry.fresh.afterAll steps).next.2.intervalMs = _
          rw [Retry.next_reconnecting (policy_afterAll steps)]
          dsimp only
          rw [ih, longestDelayMs]
          omega

/-- **Each wait is for the interval**, whatever time has passed and whatever chance says. -/
theorem next_afterAll (steps : List RetryStep) :
    (Retry.fresh.afterAll steps).next.1 = min (5000 * 2 ^ waitsSince steps) 120000 := by
  rw [Retry.next_reconnecting (policy_afterAll steps)]
  exact intervalMs_afterAll steps

theorem next?_afterAll (steps : List RetryStep) (passedMs : Nat) (shiftMs : Int) :
    ((Retry.fresh.afterAll steps).next? passedMs shiftMs).1
      = some (min (5000 * 2 ^ waitsSince steps) 120000) := by
  rw [Retry.next?_reconnecting (policy_afterAll steps), intervalMs_afterAll]

/-! ## The reader of the stream -/

/-- What an attempt says before the wait that follows it. -/
def Attempt.news : Attempt → List RetryStep
  | .refused => []
  | .connected _ => [.success]

/-- An attempt and the wait that follows it. -/
def Attempt.steps (attempt : Attempt) : List RetryStep := attempt.news ++ [.wait]

namespace Reader

variable {relay : String} {attempt : Attempt} {attempts : List Attempt} {reader reader' : Reader}

/-- The reader after attempts, if it has not come to an end. -/
def afterAll (relay : String) (reader : Reader) : List Attempt → Option Reader
  | [] => some reader
  | attempt :: rest => (reader.take relay attempt).next.bind fun next => next.2.afterAll relay rest

/-- No item stops everything. -/
theorem endOf_ne_stopped (items : List (Int64 × Item)) : endOf items ≠ .stopped := by
  unfold endOf
  split
  · simp
  · simp

/-- Forwarding stops only with a bid that nobody takes. -/
theorem exists_of_stopped {capacity : Option Nat} {items : List (Int64 × Item)}
    (h : (forwardTimed relay capacity items).outcome = .stopped) :
    ∃ count, capacity = some count ∧ count < (announced relay items).length := by
  rw [(forwardTimed_eq relay capacity items).2] at h
  split at h
  · exact absurd h (endOf_ne_stopped items)
  · rename_i hmissing
    cases capacity with
    | none => exact absurd rfl hmissing
    | some count =>
        refine ⟨count, rfl, ?_⟩
        by_contra hroom
        exact hmissing (List.take_of_length_le (Nat.le_of_not_lt hroom))

/-- **What follows an attempt**: a wait as long as the delay has become, or the end, because nobody
takes a bid. -/
theorem take_cases (relay : String) (attempt : Attempt) (reader : Reader) :
    (∃ next, (reader.take relay attempt).next
          = some ((reader.retry.afterAll attempt.news).next.1, next)
        ∧ next.retry = reader.retry.afterAll attempt.steps
        ∧ (reader.capacity = none → next.capacity = none))
      ∨ (reader.take relay attempt).next = none
        ∧ ∃ items count, attempt = .connected items ∧ reader.capacity = some count
          ∧ count < (announced relay items).length := by
  cases attempt with
  | refused => exact Or.inl ⟨_, rfl, rfl, fun h => h⟩
  | connected items =>
      unfold take
      dsimp only
      -- whatever else ends a connection, the reader waits and connects again
      split
      · rename_i hstopped
        obtain ⟨count, hcapacity, hcount⟩ := exists_of_stopped hstopped
        exact Or.inr ⟨rfl, items, count, rfl, hcapacity, hcount⟩
      · refine Or.inl ⟨_, rfl, rfl, fun h => ?_⟩
        rw [h]
        rfl

/-- What the delay of a reader has become is what happened to it. -/
theorem retry_of_afterAll (h : reader.afterAll relay attempts = some reader') :
    reader'.retry = reader.retry.afterAll (attempts.flatMap Attempt.steps) := by
  induction attempts generalizing reader with
  | nil =>
      rw [← Option.some.inj h]
      rfl
  | cons attempt rest ih =>
      obtain ⟨⟨delay, next⟩, hnext, hrest⟩ := Option.bind_eq_some_iff.mp h
      obtain ⟨next', hnext', hretry, -⟩ | ⟨hnone, -⟩ := take_cases relay attempt reader
      · rw [hnext, Option.some.injEq, Prod.mk.injEq] at hnext'
        rw [List.flatMap_cons, Retry.afterAll_append, ← hretry, ← hnext'.2]
        exact ih hrest
      · rw [hnone] at hnext
        exact absurd hnext (by simp)

/-- As long as all batches are taken the reader does not come to an end. -/
theorem exists_afterAll (relay : String) (attempts : List Attempt)
    (h : reader.capacity = none) :
    ∃ reader', reader.afterAll relay attempts = some reader' ∧ reader'.capacity = none := by
  induction attempts generalizing reader with
  | nil => exact ⟨reader, rfl, h⟩
  | cons attempt rest ih =>
      obtain ⟨next, hnext, -, hnone⟩ | ⟨-, items, count, -, hcapacity, -⟩ :=
        take_cases relay attempt reader
      · obtain ⟨reader', hreader', hleft⟩ := ih (hnone h)
        refine ⟨reader', ?_, hleft⟩
        rw [afterAll, hnext]
        exact hreader'
      · rw [h] at hcapacity
        exact absurd hcapacity (by simp)

end Reader

/-! ## The follower of heads -/

/-- What an incident does to the delay of the follower. -/
def Incident.steps : Incident → List RetryStep
  | .news .subscribed => [.success]
  | .news .refused | .news .ended => [.wait]
  | _ => []

variable {σ ε φ : Type} {node : Beacon.Node σ ε} {relays : List Relay.Entry} {scene : Scene σ}
  {f : Follower σ}

theorem delay?_notices (notices : List Notice) :
    (notices.map FollowerAct.notice).filterMap FollowerAct.delay? = [] := by
  induction notices with
  | nil => rfl
  | cons notice rest ih => exact ih

/-- A head neither makes the follower wait nor changes its delay. -/
theorem Follower.follow_delays (node : Beacon.Node σ ε) (head : Beacon.Head) (f : Follower σ) :
    (f.follow node head).1.filterMap FollowerAct.delay? = []
      ∧ (f.follow node head).2.retry = f.retry := by
  unfold follow
  dsimp only
  split
  · dsimp only
    rw [List.filterMap_append, delay?_notices]
    exact ⟨rfl, rfl⟩
  · exact ⟨delay?_notices _, rfl⟩
  · exact ⟨delay?_notices _, rfl⟩

/-- **How long the follower waits**: for its delay, where a subscription has ended or could not be
made, and not at all otherwise. -/
theorem Follower.take_news (node : Beacon.Node σ ε) (hf : f.isCrashed = false) (news : News) :
    (f.take node news.meaning).1.filterMap FollowerAct.delay?
        = (if news = .refused ∨ news = .ended then [f.retry.next.1] else [])
      ∧ (f.take node news.meaning).2.retry = f.retry.afterAll (Incident.news news).steps := by
  unfold take
  rw [hf]
  cases news with
  | subscribed => exact ⟨rfl, rfl⟩
  | refused => exact ⟨rfl, rfl⟩
  | ended => exact ⟨rfl, rfl⟩
  | noise => exact ⟨rfl, rfl⟩
  | event data =>
      have hmeaning : (News.event data).meaning = .delivered (Beacon.readHead data) := rfl
      have hother : ¬ (News.event data = .refused ∨ News.event data = .ended) := by simp
      rw [hmeaning, if_neg hother]
      cases Beacon.readHead data with
      | error fault => exact ⟨rfl, rfl⟩
      | ok head => exact f.follow_delays node head

/-- **The delay of the follower is where its news lead**, whatever else happens in between. -/
theorem retry_play (h : Orderly relays scene) (hn : node.InRange) (incidents : List Incident) :
    (scene.play node relays incidents).follower.retry
      = scene.follower.retry.afterAll (incidents.flatMap Incident.steps) := by
  induction incidents generalizing scene with
  | nil => rfl
  | cons incident rest ih =>
      -- only news reach the follower, whose delay is its own
      have hstep : (scene.meet node relays incident).follower.retry
          = scene.follower.retry.afterAll incident.steps := by
        by_cases hnews : ∃ news, incident = .news news
        · obtain ⟨news, rfl⟩ := hnews
          exact (scene.follower.take_news node h.running news).2
        · rw [not_exists] at hnews
          rw [(Scene.meet_other node relays scene hnews).2]
          cases incident with
          | news news => exact absurd rfl (hnews news)
          | wake | cancel | abandon => rfl
      rw [List.flatMap_cons, Retry.afterAll_append, ← hstep]
      exact ih (h.meet hn incident)

/-! ## Delays -/

/--
**Every wait is as long as the waits since the last success make it**, and nobody gives up.

For all steps, for the reader of the stream behind any attempts, and for the follower of heads
behind any incidents: the delay is five seconds, doubled for each wait since the last success, but
no more than two minutes, however long ago that success was and whatever chance would make of it.
The reader waits after every attempt, unless a bid has come in that nobody takes. The follower waits
wherever its subscription has ended or could not be made, and only there, and no incident makes it
crash.
-/
theorem delays_of_attempts :
    (∀ steps, (Retry.fresh.afterAll steps).next.1 = min (5000 * 2 ^ waitsSince steps) 120000)
      ∧ (∀ steps passedMs shiftMs, ((Retry.fresh.afterAll steps).next? passedMs shiftMs).1
        = some (min (5000 * 2 ^ waitsSince steps) 120000))
      ∧ (∀ relay capacity attempts reader attempt,
        (Reader.mk .fresh capacity).afterAll relay attempts = some reader →
        (∃ next, (reader.take relay attempt).next
            = some (min (5000 * 2 ^ waitsSince (attempts.flatMap Attempt.steps ++ attempt.news))
              120000, next))
          ∨ (reader.take relay attempt).next = none
            ∧ ∃ items count, attempt = .connected items ∧ reader.capacity = some count
              ∧ count < (announced relay items).length)
      ∧ (∀ relay attempts, ∃ reader,
        (Reader.mk .fresh none).afterAll relay attempts = some reader ∧ reader.capacity = none)
      ∧ (∀ (base : String) (σ : Type) (reply : Beacon.Question → σ → Http.Reply × σ)
          (relays : List Relay.Entry) (s : σ) (incidents : List Incident) (news : News),
        (Scene.after base reply relays s incidents).follower.isCrashed = false
          ∧ ((Scene.after base reply relays s incidents).follower.take
                (Beacon.Node.overHttp base reply) news.meaning).1.filterMap FollowerAct.delay?
            = if news = .refused ∨ news = .ended then
                [min (5000 * 2 ^ waitsSince (incidents.flatMap Incident.steps)) 120000]
              else []) := by
  refine ⟨next_afterAll, next?_afterAll, ?_,
    fun relay attempts => Reader.exists_afterAll relay attempts rfl, ?_⟩
  · intro relay capacity attempts reader attempt h
    obtain ⟨next, hnext, -⟩ | hend := Reader.take_cases relay attempt reader
    · refine Or.inl ⟨next, ?_⟩
      rw [hnext, Reader.retry_of_afterAll h, ← Retry.afterAll_append, next_afterAll]
    · exact Or.inr hend
  · intro base σ reply relays s incidents news
    have horderly := orderly_after base reply relays s incidents
    have hretry : (Scene.after base reply relays s incidents).follower.retry
        = Retry.fresh.afterAll (incidents.flatMap Incident.steps) :=
      retry_play (Orderly.begin relays s) (Beacon.inRange_overHttp base reply) incidents
    refine ⟨horderly.running, ?_⟩
    rw [(Follower.take_news _ horderly.running news).1, hretry, next_afterAll]

/-- Refused twice, dropped and refused again. -/
def droppedAttempts : List Attempt := [.refused, .refused, .connected [(0, .close)], .refused]

/-- The reader then waits for twenty seconds, or for five if it has connected again. The follower
waits for two minutes when it was refused seven times. -/
theorem delays_of_dropped_attempts :
    (∃ reader, (Reader.mk .fresh none).afterAll "top" droppedAttempts = some reader
        ∧ (∃ next, (reader.take "top" .refused).next = some (20000, next))
        ∧ ∃ next, (reader.take "top" (.connected [])).next = some (5000, next))
      ∧ ((Scene.after "" oneProposer [] () (List.replicate 6 (.news .refused))).follower.take
          (Beacon.Node.overHttp "" oneProposer) News.refused.meaning).1.filterMap FollowerAct.delay?
        = [120000] := by
  obtain ⟨-, -, hreader, hopen, hfollower⟩ := delays_of_attempts
  constructor
  · obtain ⟨reader, hafter, hnone⟩ := hopen "top" droppedAttempts
    have hrefused := hreader "top" none droppedAttempts reader .refused hafter
    have hconnected := hreader "top" none droppedAttempts reader (.connected []) hafter
    refine ⟨reader, hafter, ?_, ?_⟩
    · obtain h | ⟨-, items, count, h, -⟩ := hrefused
      · exact h
      · exact absurd h (by simp)
    · obtain h | ⟨-, items, count, -, h, -⟩ := hconnected
      · exact h
      · rw [hnone] at h
        exact absurd h (by simp)
  · exact (hfollower "" Unit oneProposer [] () (List.replicate 6 (.news .refused)) .refused).2

end BidArchive.Feed
