import EmployeeGateway.Proofs.RetryRun
import Mathlib

/-!
# Delays never pass the cap

`Policy.backoff p a` is `min(first * factor ^ (a - 1), cap)` in binary64
arithmetic, the minimum keeping the product unless the cap is strictly below
it. For every checked policy and every attempt `a ≥ 1`:

* a delay is never above the cap: `cap < d` fails, because the minimum keeps
  the cap only when the cap is below the product, and the cap is not below
  itself (`lt_self`). So `d ≤ cap` whenever neither is NaN, since the order
  read one way is the swap of the order read the other way (`compare?_swap`);
* computing a delay fails only by overflow, never by a division by zero: the
  power's zero-to-negative fault needs a negative exponent
  (`powInt_zeroToNegative`), and `a - 1` is not negative.

Nothing more holds for every checked policy, because the factor is not
checked: a negative factor gives negative delays, a NaN first interval gives
NaN delays, and with factor two the power leaves the binary64 range at
attempt 1025 (`backoff_overflow_negative_nan`).

A retry run inherits both facts (`attempts_trace_bounded`): every delay it
sleeps is the delay of one of its attempts, so it is at most the cap. The run
ends either as one of its attempts settles it or with the overflow of a
delay. The main statement is `Policy.delays_within_cap`.
-/

namespace EmployeeGateway

namespace Binary64

/-! ## The sign of a power's exponent -/

theorem round_signBit (negative : Bool) (num den : Nat) (scale : Int) :
    (round negative num den scale).signBit = negative := by
  unfold round
  dsimp only
  split_ifs <;> rfl

theorem ofInt?_signBit {w : Int} {y : Binary64} (h : ofInt? w = some y) :
    y.signBit = decide (w < 0) := by
  unfold ofInt? at h
  split at h
  · cases h
  · cases h
    exact round_signBit _ _ _ _

/-- A value whose sign bit is clear is not a negative integer. -/
theorem toInt?_getD_nonneg {y : Binary64} (hy : y.signBit = false) : 0 ≤ (toInt? y).getD 0 := by
  cases y with
  | nan => exact Int.le_refl 0
  | inf s => exact Int.le_refl 0
  | finite s m e =>
    obtain rfl : s = false := hy
    simp only [toInt?, Bool.false_eq_true, ↓reduceIte]
    split_ifs <;> simp only [Option.getD_some, Option.getD_none]
    · exact Int.natCast_nonneg _
    · exact Int.natCast_nonneg _
    · exact Int.le_refl 0

/-- Zero raised to a negative power is the only way a power divides by zero,
so the exponent is negative whenever it does. -/
theorem powInt_zeroToNegative {x : Binary64} {w : Int} (h : x.powInt w = .error .zeroToNegative) :
    x.isZero = true ∧ w < 0 := by
  unfold powInt at h
  split at h
  · cases h
  · next y hy =>
    dsimp only at h
    split at h
    · cases h
    cases x with
    | nan => cases h
    | inf s =>
      dsimp only at h
      split at h <;> cases h
    | finite s m e =>
      dsimp only at h
      by_cases hm : m = 0
      · rw [if_pos hm] at h
        split at h
        · next hn =>
          refine ⟨by simp [isZero, hm], ?_⟩
          -- the exponent's value is negative, so its sign bit is set
          by_contra hw
          have hsign : y.signBit = false := by simpa [hw] using ofInt?_signBit hy
          have := toInt?_getD_nonneg hsign
          omega
        · cases h
      · -- a base of magnitude one, or the table's power, never divides by zero
        rw [if_neg hm] at h
        split at h
        · cases h
        · split at h <;> cases h

end Binary64

/-! ## Delays -/

namespace Policy

variable (p : Policy)

/-- From the first attempt on, a delay fails only by overflow: the exponent
is too large, or the power leaves the binary64 range. -/
theorem backoff_overflow {a : Int} {f : Fault} (ha : 1 ≤ a) (h : p.backoff a = .error f) :
    f = PowerFault.exponentTooLarge.toFault ∨ f = PowerFault.outOfRange.toFault := by
  unfold backoff at h
  split at h
  · next e hpow =>
    cases h
    cases e with
    | exponentTooLarge => exact .inl rfl
    | zeroToNegative => exact absurd (Binary64.powInt_zeroToNegative hpow).2 (by omega)
    | outOfRange => exact .inr rfl
  · cases h

/-- A delay is never above the cap, so it is at most the cap unless one of
the two is NaN. -/
theorem backoff_within_cap {a : Int} {d : Binary64} (h : p.backoff a = .ok d) :
    p.maxInterval.lt d = false ∧
      (d.isNaN = false → p.maxInterval.isNaN = false → d.le p.maxInterval = true) := by
  unfold backoff at h
  split at h
  · cases h
  · next growth _ =>
    cases h
    have hcap := Binary64.minLeft_not_above (p.initialInterval.mul growth) p.maxInterval
    exact ⟨hcap, fun hd hc => Binary64.le_of_lt_eq_false hd hc hcap⟩

end Policy

/-! ## Delays of a retry run -/

namespace Retry

variable {α : Type} (p : Policy) (activity : String) (o : Nat → Except Fault α)

/-- Over the attempts left after `c` calls, `c + 1` being the next: every
delay the run adds is the delay of one of the attempts `c + 1, …, c + left`,
and the run ends after at least one more call, as its last attempt settles
it or with the fault of that attempt's delay. -/
theorem attempts_trace_bounded (left : Nat) : ∀ (c : Nat) (ds : List Binary64),
    let r := (attempts Trace.sleep p activity (Trace.call o) (left + 1) (c + 1)).run ⟨c, ds⟩
    (∀ d ∈ r.2.slept, d ∈ ds ∨ ∃ j : Nat, c < j ∧ j ≤ c + left ∧ p.backoff j = .ok d) ∧
      c < r.2.calls ∧
      (r.1 = settle p activity (o r.2.calls) ∨
        ∃ g, p.backoff r.2.calls = .error g ∧ r.1 = .error g) := by
  induction left with
  | zero =>
    intro c ds
    rw [attempts_trace_settle p activity o 0 c ds fun h => absurd rfl h]
    exact ⟨fun d hd => .inl hd, Nat.lt_add_one c, .inl rfl⟩
  | succ left ih =>
    intro c ds
    rw [attempts_trace_step]
    cases h : o (c + 1) with
    | ok a =>
      dsimp only
      exact ⟨fun d hd => .inl hd, by omega, .inl (by rw [h]; rfl)⟩
    | error f =>
      cases hr : f.isRetryable with
      | false =>
        -- a failure that is not retried ends the run
        dsimp only
        simp only [hr, Bool.not_false, if_true]
        exact ⟨fun d hd => .inl hd, by omega, .inl (by simp [h, settle, hr])⟩
      | true =>
        dsimp only
        simp only [hr, Bool.not_true, Bool.false_eq_true, if_false, Nat.add_one_ne_zero]
        have hcast : ((c + 1 : Nat) : Int) = (c : Int) + 1 := by omega
        cases hb : p.backoff ((c : Int) + 1) with
        | error g => exact ⟨fun d hd => .inl hd, Nat.lt_add_one c, .inr ⟨g, by rw [hcast]; exact hb, rfl⟩⟩
        | ok d =>
          -- the delay `d` is recorded and the attempts left carry the rest
          obtain ⟨hslept, hcalls, hend⟩ := ih (c + 1) (ds ++ [d])
          refine ⟨fun d' hd' => ?_, Nat.lt_of_succ_lt hcalls, hend⟩
          rcases hslept d' hd' with hd' | ⟨j, hj, hjl, hjb⟩
          · rcases List.mem_append.mp hd' with hd' | hd'
            · exact .inl hd'
            · rw [List.mem_singleton.mp hd']
              exact .inr ⟨c + 1, by omega, by omega, by rw [hcast]; exact hb⟩
          · exact .inr ⟨j, by omega, by omega, hjb⟩

end Retry

/-! ## The delays of a checked policy -/

/-- **Delays stay within the cap.** For every checked policy: from the first
attempt on, computing a delay fails only by overflow, and a delay is never
above the cap (it is at most the cap unless one of the two is NaN). So a
retry run over any outcomes sleeps only such delays, and it ends as its last
attempt settles it or with the overflow of a delay. -/
theorem Policy.delays_within_cap (p : Policy) :
    (∀ a : Int, 1 ≤ a →
      (∀ f, p.backoff a = .error f →
        f = PowerFault.exponentTooLarge.toFault ∨ f = PowerFault.outOfRange.toFault) ∧
      ∀ d, p.backoff a = .ok d → p.maxInterval.lt d = false ∧
        (d.isNaN = false → p.maxInterval.isNaN = false → d.le p.maxInterval = true)) ∧
    ∀ {α : Type} (activity : String) (o : Nat → Except Fault α),
      let r := (Retry.run Retry.Trace.sleep p activity (Retry.Trace.call o)).run ⟨0, []⟩
      (∀ d ∈ r.2.slept, p.maxInterval.lt d = false ∧
        (d.isNaN = false → p.maxInterval.isNaN = false → d.le p.maxInterval = true)) ∧
      (r.1 = Retry.settle p activity (o r.2.calls) ∨
        r.1 = .error PowerFault.exponentTooLarge.toFault ∨
        r.1 = .error PowerFault.outOfRange.toFault) := by
  refine ⟨fun a ha => ⟨fun f hf => p.backoff_overflow ha hf, fun d hd => p.backoff_within_cap hd⟩, ?_⟩
  intro α activity o
  obtain ⟨n, hn⟩ : ∃ n, p.maxAttempts = n + 1 := ⟨p.maxAttempts - 1, by have := p.attempts_pos; omega⟩
  have hrun := Retry.attempts_trace_bounded p activity o n 0 []
  simp only [Retry.run, hn, Nat.zero_add] at hrun ⊢
  obtain ⟨hslept, hcalls, hend⟩ := hrun
  refine ⟨fun d hd => ?_, ?_⟩
  · -- the run starts with no delay, so each one is the delay of an attempt
    rcases hslept d hd with hd | ⟨j, -, -, hj⟩
    · cases hd
    · exact p.backoff_within_cap hj
  · rcases hend with hend | ⟨g, hg, hend⟩
    · exact .inl hend
    · rw [hend]
      rcases p.backoff_overflow (by omega) hg with rfl | rfl
      · exact .inr (.inl rfl)
      · exact .inr (.inr rfl)

/-- The factor is not checked, so a checked policy bounds its delays neither
below nor in range: with factor two and 1026 attempts the power overflows at
attempt 1025; with factor minus one the second delay is minus two seconds;
with a NaN first interval the first delay is NaN. -/
theorem Policy.backoff_overflow_negative_nan :
    let doubling : Policy := ⟨1026, two, two, thirty, by decide, by decide, by decide⟩
    let alternating : Policy := ⟨3, two, Binary64.one.neg, thirty, by decide, by decide, by decide⟩
    let undefined : Policy := ⟨3, .nan, two, thirty, by decide, by decide, by decide⟩
    (1025 : Int) < doubling.maxAttempts ∧
      doubling.backoff 1025 = .error PowerFault.outOfRange.toFault ∧
      alternating.backoff 2 = .ok two.neg ∧ two.neg.lt (Binary64.zero false) = true ∧
      undefined.backoff 1 = .ok .nan := by
  -- the powers are evaluated by the kernel, the rest by unfolding
  have hdouble : two.powInt (1025 - 1) = .error .outOfRange := by decide +kernel
  have hflip : Binary64.one.neg.powInt (2 - 1) = .ok Binary64.one.neg := by decide +kernel
  have hzero : two.powInt (1 - 1) = .ok Binary64.one := by decide +kernel
  refine ⟨by decide, ?_, ?_, by decide, ?_⟩
  · dsimp only [backoff]
    rw [hdouble]
  · dsimp only [backoff]
    rw [hflip]
    rfl
  · dsimp only [backoff]
    rw [hzero]
    rfl

end EmployeeGateway
