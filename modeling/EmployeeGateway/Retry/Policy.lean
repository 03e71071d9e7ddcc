import EmployeeGateway.Fault

/-!
# Backoff policies

A `Policy` fixes how often an action is tried and how long to wait between
tries: at least one attempt, a first delay and a cap that are not negative
(NaN and negative zero pass), and a growth factor. `Policy.make` checks the
attempt budget first, then the two intervals.

The delay after failed attempt `a` is `min(first * factor ^ (a - 1), cap)` in
binary64 arithmetic: the power is `Binary64.powInt` (whose faults end the
computation), the product rounds to nearest and may overflow to infinity or
give NaN without a fault, and the minimum keeps the product unless the cap is
strictly smaller.
-/

namespace EmployeeGateway

/-- A checked retry policy. -/
structure Policy where
  maxAttempts : Nat
  initialInterval : Binary64
  multiplier : Binary64
  maxInterval : Binary64
  attempts_pos : 0 < maxAttempts
  initial_not_negative : initialInterval.lt (Binary64.zero false) = false
  max_not_negative : maxInterval.lt (Binary64.zero false) = false

namespace Policy

/-- The fault of a policy with no attempt. -/
def noAttemptsFault : Fault := .badValue "max_attempts must be at least 1"

/-- The fault of a policy with a negative interval. -/
def negativeIntervalFault : Fault := .badValue "backoff intervals must not be negative"

/-- Check the parts of a policy. -/
def make (maxAttempts : Int) (initial multiplier cap : Binary64) : Except Fault Policy :=
  if h : 0 < maxAttempts then
    if hi : initial.lt (Binary64.zero false) = false then
      if hc : cap.lt (Binary64.zero false) = false then
        .ok ⟨maxAttempts.toNat, initial, multiplier, cap, by omega, hi, hc⟩
      else .error negativeIntervalFault
    else .error negativeIntervalFault
  else .error noAttemptsFault

/-- Two seconds. -/
def two : Binary64 := .finite false (Nat.pow 2 52) (-51)

/-- Thirty seconds. -/
def thirty : Binary64 := .finite false (15 * Nat.pow 2 49) (-48)

/-- Three attempts, two seconds first, doubling, capped at thirty seconds. -/
def standard : Policy :=
  ⟨3, two, two, thirty, by decide, by decide, by decide⟩

/-- The delay after failed attempt `attempt` (counted from one). -/
def backoff (p : Policy) (attempt : Int) : Except Fault Binary64 :=
  match p.multiplier.powInt (attempt - 1) with
  | .error e => .error e.toFault
  | .ok growth => .ok (Binary64.minLeft (p.initialInterval.mul growth) p.maxInterval)

end Policy

end EmployeeGateway
