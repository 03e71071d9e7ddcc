import EmployeeGateway.Retry.Policy
import EmployeeGateway.Json.Value

/-!
# Running an action under a policy

`Retry.run sleep policy activity action` tries `action` until it succeeds,
fails with a fault that is not retryable (which ends the run unchanged), or
has failed `policy.maxAttempts` times. After each failed attempt but the last
it waits `policy.backoff attempt` through `sleep`; a backoff that faults ends
the run with that fault. When the attempts are spent the run fails with a
service fault whose cause is the last failure: its message is the rate-limit
text when that failure was a rate-limit refusal, and otherwise
`Failed to <activity> after <n> attempts`.

The loop is over the attempts left, so a run is one attempt followed either
by a stop or by the run of the remaining attempts.

`Retry.runScript` runs an action whose successive calls take their outcomes
from a script: each call takes the next outcome, a value or a fault, and once
the script is used up every call returns the fallback value. The result
records the run's outcome, how many times the action was called and the
delays slept, in order.
-/

namespace EmployeeGateway

namespace Retry

/-- The message of a run whose last failure was a rate-limit refusal. -/
def rateLimitText : String := "Rate limit exceeded. Please try again later."

/-- The fault of a run whose attempts are spent, `last` being the last
failure. -/
def exhausted (p : Policy) (activity : String) (last : Fault) : Fault :=
  if last.isRateLimited then .service rateLimitText (some last)
  else .service ("Failed to " ++ activity ++ " after " ++ toString p.maxAttempts ++ " attempts") (some last)

/-- Attempts `attempt, attempt + 1, …` with `left` attempts remaining. -/
def attempts {m : Type → Type} [Monad m] {α : Type} (sleep : Binary64 → m Unit) (p : Policy)
    (activity : String) (action : m (Except Fault α)) : Nat → Nat → m (Except Fault α)
  | 0, _ => pure (.error (.runtime "no attempt left"))
  | left + 1, attempt => do
    match ← action with
    | .ok a => pure (.ok a)
    | .error f =>
      if !f.isRetryable then pure (.error f)
      else if left = 0 then pure (.error (exhausted p activity f))
      else
        match p.backoff attempt with
        | .error g => pure (.error g)
        | .ok d => do
          sleep d
          attempts sleep p activity action left (attempt + 1)

/-- Run `action` under the policy. -/
def run {m : Type → Type} [Monad m] {α : Type} (sleep : Binary64 → m Unit) (p : Policy)
    (activity : String) (action : m (Except Fault α)) : m (Except Fault α) :=
  attempts sleep p activity action p.maxAttempts 1

/-! ## A run over scripted outcomes -/

/-- What a scripted run did. -/
structure ScriptRun where
  outcome : Except Fault Value
  calls : Nat
  delays : List Binary64
  deriving Inhabited

/-- The state of a scripted run: outcomes left, calls made, delays slept
(last first). -/
structure ScriptState where
  left : List (Except Fault Value)
  calls : Nat
  slept : List Binary64

/-- One call of the scripted action. -/
def scriptedCall (fallback : Value) : StateM ScriptState (Except Fault Value) :=
  modifyGet fun s =>
    match s.left with
    | [] => (.ok fallback, ⟨[], s.calls + 1, s.slept⟩)
    | o :: rest => (o, ⟨rest, s.calls + 1, s.slept⟩)

/-- Record a delay. -/
def recordSleep (d : Binary64) : StateM ScriptState Unit :=
  modify fun s => ⟨s.left, s.calls, d :: s.slept⟩

/-- Run the scripted action under the policy. -/
def runScript (p : Policy) (activity : String) (script : List (Except Fault Value))
    (fallback : Value) : ScriptRun :=
  let (outcome, s) := (run recordSleep p activity (scriptedCall fallback)).run ⟨script, 0, []⟩
  ⟨outcome, s.calls, s.slept.reverse⟩

end Retry

end EmployeeGateway
