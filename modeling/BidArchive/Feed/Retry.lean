/-!
# Retry delays

A connection that was lost, or could not be made, is tried again after a delay. How delays grow is a
matter of a policy (`RetryPolicy`), and so is whether chance has a say in them and whether there
comes an end to them (`Retry.next?`).

Connections are tried again by one policy (`reconnecting`): the delay begins at five seconds,
doubles with every wait up to two minutes and begins anew after a success. There is no limit to the
number of attempts.
-/

namespace BidArchive.Feed

/-- The first delay, in milliseconds. -/
def firstDelayMs : Nat := 5000

/-- The longest delay, in milliseconds. -/
def longestDelayMs : Nat := 120000

/-- How delays are chosen. -/
structure RetryPolicy where
  /-- The interval to begin with, in milliseconds. -/
  firstMs : Nat
  /-- By how much per cent of the interval chance may take a delay off it. -/
  jitterPercent : Nat
  /-- What the interval is multiplied by with every delay. -/
  multiplier : Nat
  /-- The longest interval, in milliseconds. -/
  longestMs : Nat
  /-- The time after which there are no more delays, if there is one. -/
  limitMs : Option Nat
deriving DecidableEq, Repr

/-- How connections are tried again. -/
def reconnecting : RetryPolicy where
  firstMs := firstDelayMs
  jitterPercent := 0
  multiplier := 2
  longestMs := longestDelayMs
  limitMs := none

/-- A policy at work, with the interval to wait next. -/
structure Retry where
  policy : RetryPolicy := reconnecting
  intervalMs : Nat := policy.firstMs
deriving DecidableEq, Repr

namespace Retry

/-- Before any wait. -/
def fresh : Retry := {}

/-- The delay that comes of the interval when chance would shift it. -/
def shifted (retry : Retry) (shiftMs : Int) : Nat :=
  let spread := retry.intervalMs * retry.policy.jitterPercent / 100
  (retry.intervalMs + max (-(spread : Int)) (min shiftMs spread)).toNat

/-- The interval after the next delay. -/
def grown (retry : Retry) : Retry :=
  { retry with
    intervalMs := min (retry.intervalMs * retry.policy.multiplier) retry.policy.longestMs }

/-- The delay to wait when so much time has passed since the last success, if there is to be one,
and what is left to do after it. -/
def next? (retry : Retry) (passedMs : Nat) (shiftMs : Int) : Option Nat × Retry :=
  let delay := retry.shifted shiftMs
  match retry.policy.limitMs with
  | none => (some delay, retry.grown)
  | some limit =>
    if limit < passedMs then (none, retry)
    else if passedMs + delay ≤ limit then (some delay, retry.grown)
    else (none, retry.grown)

/-- The delay to wait now, the longest if there is to be none, and what is left to do after it. The
policy in use asks for neither the time nor chance (`next?_reconnecting`). -/
def next (retry : Retry) : Nat × Retry :=
  let (delay?, retry) := retry.next? 0 0
  (delay?.getD longestDelayMs, retry)

/-- After a success. -/
def reset (retry : Retry) : Retry := { retry with intervalMs := retry.policy.firstMs }

variable {retry : Retry}

/-- Chance has no say where the policy leaves it none. -/
theorem shifted_eq (h : retry.policy.jitterPercent = 0) (shiftMs : Int) :
    retry.shifted shiftMs = retry.intervalMs := by
  unfold shifted
  rw [h]
  simp only [Nat.mul_zero, Nat.zero_div]
  omega

/-- **Connections are tried again whatever the time**, after the interval as it is. -/
theorem next?_reconnecting (h : retry.policy = reconnecting) (passedMs : Nat) (shiftMs : Int) :
    retry.next? passedMs shiftMs
      = (some retry.intervalMs, { retry with
          intervalMs := min (retry.intervalMs * 2) longestDelayMs }) := by
  unfold next? grown
  rw [shifted_eq (by rw [h]; rfl), h]
  rfl

theorem next_reconnecting (h : retry.policy = reconnecting) :
    retry.next = (retry.intervalMs, { retry with
      intervalMs := min (retry.intervalMs * 2) longestDelayMs }) := by
  unfold next
  rw [next?_reconnecting h]
  rfl

end Retry

end BidArchive.Feed
