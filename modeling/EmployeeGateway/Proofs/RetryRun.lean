import EmployeeGateway.Retry.Run

/-!
# A retry run over a sequence of outcomes

The action of a run is taken to have the outcome `o n` at its `n`-th call, and
the waits are recorded (`Trace`). Let `k` be the first attempt that settles the
run: the first outcome that is a value or a fault that is not retried, or the
last attempt the policy allows if there is none. When no backoff before `k`
faults, the run

* calls the action exactly `k` times,
* waits exactly `backoff 1, …, backoff (k - 1)`, in that order, and
* ends with `o k` as it is when that is a value or a fault that is not
  retried, and otherwise (then `k` is the last attempt) with a service fault
  caused by `o k`, whose message is the rate-limit text exactly when `o k` is a
  rate-limit refusal.

This is `Retry.run_on_outcomes`. Its induction runs over the attempts left
(`attempts_trace`), one attempt at a time (`attempts_trace_step`); a run in
any state monad is opened one attempt at a time by `attempts_run`.
-/

namespace EmployeeGateway.Retry

/-- What a run did so far: the calls of the action and the waits, in order. -/
structure Trace where
  calls : Nat
  slept : List Binary64

/-- The action whose `n`-th call (counted from one) has the outcome `o n`. -/
def Trace.call {α : Type} (o : Nat → Except Fault α) : StateM Trace (Except Fault α) :=
  modifyGet fun t => (o (t.calls + 1), { t with calls := t.calls + 1 })

/-- Waiting records the delay. -/
def Trace.sleep (d : Binary64) : StateM Trace Unit :=
  modify fun t => { t with slept := t.slept ++ [d] }

/-- How a run ends when `r` is the outcome of the attempt that settles it. -/
def settle {α : Type} (p : Policy) (activity : String) : Except Fault α → Except Fault α
  | .ok a => .ok a
  | .error f => if f.isRetryable then .error (exhausted p activity f) else .error f

/-! ## One attempt -/

section Step

variable {σ α : Type} (sleep : Binary64 → StateM σ Unit) (p : Policy) (activity : String)
  (action : StateM σ (Except Fault α))

/-- One attempt of a run in a state monad: the action's result ends the run,
or its backoff faults, or the run sleeps and goes on with the attempts left. -/
theorem attempts_run (left attempt : Nat) (s : σ) :
    (attempts sleep p activity action (left + 1) attempt).run s =
      match (action.run s).1 with
      | .ok a => (.ok a, (action.run s).2)
      | .error f =>
        if !f.isRetryable then (.error f, (action.run s).2)
        else if left = 0 then (.error (exhausted p activity f), (action.run s).2)
        else
          match p.backoff attempt with
          | .error g => (.error g, (action.run s).2)
          | .ok d =>
            (attempts sleep p activity action left (attempt + 1)).run ((sleep d).run (action.run s).2).2 := by
  rw [attempts]
  -- the bind of the state monad, opened at the action's result
  show (match (action.run s).1 with
    | .ok a => pure (.ok a)
    | .error f =>
      if !f.isRetryable then pure (.error f)
      else if left = 0 then pure (.error (exhausted p activity f))
      else
        match p.backoff attempt with
        | .error g => pure (.error g)
        | .ok d => do
          sleep d
          attempts sleep p activity action left (attempt + 1) : StateM σ _).run (action.run s).2 = _
  cases (action.run s).1 with
  | ok a => rfl
  | error f =>
    dsimp only
    split
    · rfl
    · split
      · rfl
      · cases p.backoff attempt <;> rfl

end Step

variable {α : Type} (p : Policy) (activity : String) (o : Nat → Except Fault α)

/-- One attempt after `c` calls: the `(c + 1)`-th outcome either ends the run,
or its backoff faults, or the delay is recorded and the next attempt follows. -/
theorem attempts_trace_step (left c : Nat) (ds : List Binary64) :
    (attempts Trace.sleep p activity (Trace.call o) (left + 1) (c + 1)).run ⟨c, ds⟩ =
      match o (c + 1) with
      | .ok a => (.ok a, ⟨c + 1, ds⟩)
      | .error f =>
        if !f.isRetryable then (.error f, ⟨c + 1, ds⟩)
        else if left = 0 then (.error (exhausted p activity f), ⟨c + 1, ds⟩)
        else
          match p.backoff (c + 1) with
          | .error g => (.error g, ⟨c + 1, ds⟩)
          | .ok d =>
            (attempts Trace.sleep p activity (Trace.call o) left (c + 2)).run ⟨c + 1, ds ++ [d]⟩ := by
  rw [attempts_run]
  rfl

/-- An attempt that settles the run, with a value, a fault that is not
retried, or any fault on the last attempt, ends it as `settle` says, with no
further wait. -/
theorem attempts_trace_settle (left c : Nat) (ds : List Binary64)
    (hstop : left ≠ 0 → ∀ f, o (c + 1) = .error f → f.isRetryable = false) :
    (attempts Trace.sleep p activity (Trace.call o) (left + 1) (c + 1)).run ⟨c, ds⟩ =
      (settle p activity (o (c + 1)), ⟨c + 1, ds⟩) := by
  rw [attempts_trace_step]
  cases h : o (c + 1) with
  | ok a => rfl
  | error f =>
    cases hr : f.isRetryable with
    | false => simp [settle, hr]
    | true =>
      by_cases hl : left = 0
      · simp [settle, hr, hl]
      · simp [hstop hl f h] at hr

/-! ## The attempts left -/

/-- After `c` calls with `left + 1` attempts to go, where `k` is the first
attempt from `c + 1` on that settles the run (or the last one), the run makes
its calls up to `k`, adds the delays of attempts `c + 1, …, k - 1`, and ends as
`o k` settles it. -/
theorem attempts_trace (left : Nat) : ∀ (c : Nat) (ds : List Binary64) (k : Nat),
    c < k → k ≤ c + left + 1 →
    (∀ j, c < j → j < k → ∃ f, o j = .error f ∧ f.isRetryable = true) →
    (k < c + left + 1 → ∀ f, o k = .error f → f.isRetryable = false) →
    (∀ j, c < j → j < k → ∃ d, p.backoff j = .ok d) →
    let r := (attempts Trace.sleep p activity (Trace.call o) (left + 1) (c + 1)).run ⟨c, ds⟩
    r.2.calls = k ∧
      r.2.slept.map Except.ok =
        ds.map Except.ok ++ (List.range' (c + 1) (k - 1 - c)).map (fun j : Nat => p.backoff j) ∧
      r.1 = settle p activity (o k) := by
  induction left with
  | zero =>
    -- the last attempt: it settles the run whatever its outcome
    intro c ds k hck hkN _ _ _
    obtain rfl : k = c + 1 := by omega
    rw [attempts_trace_settle p activity o 0 c ds fun h => absurd rfl h]
    exact ⟨rfl, by simp, rfl⟩
  | succ left ih =>
    intro c ds k hck hkN hfail hstop hback
    by_cases hk : k = c + 1
    · subst hk
      rw [attempts_trace_settle p activity o (left + 1) c ds fun _ => hstop (by omega)]
      exact ⟨rfl, by simp, rfl⟩
    · -- attempt `c + 1` fails and is retried after its delay `d`
      rw [attempts_trace_step]
      obtain ⟨f, hf, hr⟩ := hfail (c + 1) (by omega) (by omega)
      obtain ⟨d, hd⟩ := hback (c + 1) (by omega) (by omega)
      have hd' : p.backoff (↑c + 1) = .ok d := by exact_mod_cast hd
      obtain ⟨hcalls, hslept, hend⟩ := ih (c + 1) (ds ++ [d]) k (by omega) (by omega)
        (fun j hj hjk => hfail j (by omega) hjk) (fun _ => hstop (by omega))
        (fun j hj hjk => hback j (by omega) hjk)
      simp only [hf, hr, hd', Bool.not_true, Bool.false_eq_true, if_false, Nat.add_one_ne_zero]
      refine ⟨hcalls, ?_, hend⟩
      have hlen : k - 1 - c = (k - 1 - (c + 1)) + 1 := by omega
      rw [hslept, hlen, List.range'_succ]
      simp [hd']

/-! ## The whole run -/

set_option maxRecDepth 100000 in
theorem backoff_one : Policy.standard.backoff 1 = .ok Policy.two := by rfl

set_option maxRecDepth 100000 in
theorem backoff_two : Policy.standard.backoff 2 = .ok (.finite false (Nat.pow 2 52) (-50)) := by rfl

/-- **Retry run.** With `k` the first attempt whose outcome is a value or a
fault that is not retried (the last attempt if none is), and no backoff before
`k` faulting, the run calls the action `k` times, waits `backoff 1, …,
backoff (k - 1)` in order, and ends with the value, with the fault that is not
retried, or, all attempts having failed, with a service fault caused by the
last failure. -/
theorem run_on_outcomes (k : Nat) (hk : 1 ≤ k) (hkN : k ≤ p.maxAttempts)
    (hfail : ∀ j, 1 ≤ j → j < k → ∃ f, o j = .error f ∧ f.isRetryable = true)
    (hstop : k < p.maxAttempts → ∀ f, o k = .error f → f.isRetryable = false)
    (hback : ∀ j, 1 ≤ j → j < k → ∃ d, p.backoff j = .ok d) :
    let r := (run Trace.sleep p activity (Trace.call o)).run ⟨0, []⟩
    r.2.calls = k ∧
      r.2.slept.map Except.ok = (List.range' 1 (k - 1)).map (fun j : Nat => p.backoff j) ∧
      (∀ a, o k = .ok a → r.1 = .ok a) ∧
      (∀ f, o k = .error f → f.isRetryable = false → r.1 = .error f) ∧
      (∀ f, o k = .error f → f.isRetryable = true →
        k = p.maxAttempts ∧
        r.1 = .error (.service
          (if f.isRateLimited then "Rate limit exceeded. Please try again later."
           else "Failed to " ++ activity ++ " after " ++ toString p.maxAttempts ++ " attempts")
          (some f))) := by
  obtain ⟨n, hn⟩ : ∃ n, p.maxAttempts = n + 1 := ⟨p.maxAttempts - 1, by have := p.attempts_pos; omega⟩
  have hrun := attempts_trace p activity o n 0 [] k (by omega) (by omega)
    (fun j hj hjk => hfail j hj hjk) (fun h => hstop (by omega))
    (fun j hj hjk => hback j hj hjk)
  simp only [run, hn, Nat.zero_add, Nat.sub_zero] at hrun ⊢
  obtain ⟨hcalls, hslept, hend⟩ := hrun
  refine ⟨hcalls, by simpa using hslept, ?_, ?_, ?_⟩
  · intro a ha
    rw [hend, ha, settle]
  · intro f hf hr
    rw [hend, hf, settle, if_neg (by simp [hr])]
  · intro f hf hr
    refine ⟨?_, ?_⟩
    · rcases Nat.lt_or_ge k (n + 1) with hlt | hge
      · have := hstop (by omega) f hf
        simp [hr] at this
      · omega
    · rw [hend, hf, settle, if_pos hr, exhausted, hn]
      split <;> rfl

/-- Two rate-limit refusals, then a 503 under the standard policy: three calls,
waits of two and four seconds, and the activity's text, since the last
failure is not a refusal. -/
theorem run_on_outcomes_mixed_failures :
    let o : Nat → Except Fault Nat := fun j =>
      if j ≤ 2 then .error (.rateLimited Fault.rateLimitMessage)
      else .error (.upstream "GET returned 503" (some 503) none)
    let r := (run Trace.sleep Policy.standard "fetch employees" (Trace.call o)).run ⟨0, []⟩
    r.2.calls = 3 ∧
      r.2.slept.map Except.ok =
        [(.ok Policy.two : Except Fault Binary64), .ok (.finite false (Nat.pow 2 52) (-50))] ∧
      r.1 = .error (.service "Failed to fetch employees after 3 attempts"
        (some (.upstream "GET returned 503" (some 503) none))) := by
  intro o
  have hfail : ∀ j, 1 ≤ j → j < 3 → ∃ f, o j = .error f ∧ f.isRetryable = true := by
    intro j _ hj
    exact ⟨.rateLimited Fault.rateLimitMessage, by simp [o]; omega, rfl⟩
  have hback : ∀ j : Nat, 1 ≤ j → j < 3 → ∃ d, Policy.standard.backoff j = .ok d := by
    intro j hj1 hj3
    rcases (by omega : j = 1 ∨ j = 2) with rfl | rfl
    · exact ⟨Policy.two, backoff_one⟩
    · exact ⟨_, backoff_two⟩
  obtain ⟨hcalls, hslept, -, -, hend⟩ :=
    run_on_outcomes Policy.standard "fetch employees" o 3 (by decide) (by decide) hfail
      (fun h => absurd h (by decide)) hback
  have hlast : o 3 = .error (.upstream "GET returned 503" (some 503) none) := by simp [o]
  refine ⟨hcalls, ?_, ?_⟩
  · rw [hslept]
    simp [List.range', backoff_one, backoff_two]
  · rw [(hend _ hlast rfl).2]
    rfl

end EmployeeGateway.Retry
