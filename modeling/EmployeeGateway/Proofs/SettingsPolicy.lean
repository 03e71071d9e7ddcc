import EmployeeGateway.Proofs.DelayCap
import EmployeeGateway.Settings
import Mathlib

/-!
# The retry policy of the settings

`Policy.ofSettings` turns the two millisecond counts of the settings into
seconds, each the float nearest to `ms / 1000`, and then checks the policy.
The division comes first, and it fails for a count too large: a quotient has
no finite value exactly when it reaches `2 ^ 1024 - 2 ^ 970`, the midpoint
between the largest finite value `2 ^ 1024 - 2 ^ 971` and `2 ^ 1024`, from
where rounding to nearest gives infinity (`round_eq_inf_iff`). Otherwise the
seconds are below zero exactly when the count is, since a quotient by 1000 is
never rounded to zero (`round_significand_pos`), so the policy's checks read
the integers. Hence, for every settings:

* if either count has `|ms| ≥ 1000 * (2 ^ 1024 - 2 ^ 970)`, the call fails
  with an overflow, before any check;
* otherwise it fails with `max_attempts must be at least 1` when the attempts
  are below one, and else with `backoff intervals must not be negative` when
  either count is negative;
* otherwise it gives the policy of the attempts, the two converted intervals
  and the factor.

The main statement is `Policy.ofSettings_outcomes`. The overflow is neither of
the policy's own faults (`Policy.ofSettings_overflow_huge_interval`).
-/

namespace EmployeeGateway

namespace Binary64

/-! ## The binary logarithm of a ratio -/

/-- `floorLog2Ratio` is the floor of the binary logarithm: a power `2 ^ j` is
at most `num / den` exactly when `j` is at most it. -/
theorem le_floorLog2Ratio_iff {num den : Nat} (hnum : num ≠ 0) (hden : den ≠ 0) (j : Nat) :
    (j : Int) ≤ floorLog2Ratio num den ↔ den * 2 ^ j ≤ num := by
  -- the bit lengths bound both sides within a factor of two
  have ha₁ : 2 ^ num.log2 ≤ num := Nat.log2_self_le hnum
  have ha₂ : num < 2 ^ (num.log2 + 1) := Nat.lt_log2_self
  have hb₁ : 2 ^ den.log2 ≤ den := Nat.log2_self_le hden
  have hb₂ : den < 2 ^ (den.log2 + 1) := Nat.lt_log2_self
  unfold floorLog2Ratio
  simp only [Nat.pow_eq]
  generalize num.log2 = a at ha₁ ha₂ ⊢
  generalize den.log2 = b at hb₁ hb₂ ⊢
  by_cases hab : b ≤ a
  · have ht : ((a : Int) - (b : Int)).toNat = a - b := by omega
    rw [if_pos (by omega), ht]
    by_cases hc : den * 2 ^ (a - b) ≤ num
    · -- `num / den` reaches `2 ^ (a - b)`, and stays below the next power
      rw [if_pos hc]
      constructor
      · intro hj
        calc den * 2 ^ j ≤ den * 2 ^ (a - b) :=
              Nat.mul_le_mul_left _ (Nat.pow_le_pow_right two_pos (by omega))
          _ ≤ num := hc
      · intro hj
        by_contra hlt
        have hpow : 2 ^ (a + 1) ≤ den * 2 ^ j :=
          calc 2 ^ (a + 1) = 2 ^ b * 2 ^ (a - b + 1) := by rw [← pow_add]; congr 1; omega
            _ ≤ den * 2 ^ j := Nat.mul_le_mul hb₁ (Nat.pow_le_pow_right two_pos (by omega))
        omega
    · -- `num / den` falls short of `2 ^ (a - b)` but reaches the power below it
      rw [if_neg hc]
      constructor
      · intro hj
        have hpow : den * 2 ^ j < 2 ^ a :=
          calc den * 2 ^ j < 2 ^ (b + 1) * 2 ^ j := Nat.mul_lt_mul_of_pos_right hb₂ (by positivity)
            _ = 2 ^ (b + 1 + j) := (pow_add 2 (b + 1) j).symm
            _ ≤ 2 ^ a := Nat.pow_le_pow_right two_pos (by omega)
        omega
      · intro hj
        have hlt : 2 ^ j < 2 ^ (a - b) :=
          Nat.lt_of_mul_lt_mul_left (by omega : den * 2 ^ j < den * 2 ^ (a - b))
        have := (Nat.pow_lt_pow_iff_right (by norm_num)).mp hlt
        omega
  · -- `num` has fewer bits than `den`, so `num / den` is below one
    have hlt : num < den * 2 ^ j :=
      calc num < 2 ^ (a + 1) := ha₂
        _ ≤ 2 ^ b := Nat.pow_le_pow_right two_pos (by omega)
        _ ≤ den := hb₁
        _ ≤ den * 2 ^ j := Nat.le_mul_of_pos_right _ (by positivity)
    rw [if_neg (by omega)]
    split_ifs <;> omega

theorem floorLog2Ratio_ge (num den : Nat) :
    (num.log2 : Int) - den.log2 - 1 ≤ floorLog2Ratio num den := by
  unfold floorLog2Ratio
  dsimp only
  split_ifs <;> omega

/-! ## Rounding at the ends of the range -/

theorem div_le_roundDivEven (n d : Nat) : n / d ≤ roundDivEven n d := by
  unfold roundDivEven
  dsimp only
  split <;> omega

theorem roundDivEven_pos {n d : Nat} (hd : 0 < d) (h : d ≤ n) : 0 < roundDivEven n d :=
  lt_of_lt_of_le (Nat.div_pos h hd) (div_le_roundDivEven n d)

/-- A quotient below `2 ^ 53` rounds up to `2 ^ 53` exactly when it is at
least the midpoint `2 ^ 53 - 1 / 2`: the tie goes up, to the even neighbour. -/
theorem roundDivEven_eq_pow53_iff {n d : Nat} (hd : 0 < d) (hn : n < d * Nat.pow 2 53) :
    roundDivEven n d = Nat.pow 2 53 ↔ d * (2 * Nat.pow 2 53 - 1) ≤ 2 * n := by
  have h53 : Nat.pow 2 53 = 9007199254740992 := rfl
  rw [h53] at hn ⊢
  have hdiv := Nat.div_add_mod n d
  have hmod := Nat.mod_lt n hd
  have hq : n / d < 9007199254740992 := (Nat.div_lt_iff_lt_mul hd).mpr (by rw [Nat.mul_comm]; exact hn)
  unfold roundDivEven
  dsimp only
  constructor
  · intro h
    -- only the rounding up of the quotient `2 ^ 53 - 1` reaches `2 ^ 53`
    split_ifs at h with hup
    · have hq' : n / d = 9007199254740991 := by omega
      rw [hq'] at hdiv
      simp only [Bool.or_eq_true, decide_eq_true_eq, Bool.and_eq_true, beq_iff_eq] at hup
      omega
    · omega
  · intro h
    have hq' : n / d = 9007199254740991 := by
      have hmul : 9007199254740991 * d ≤ n := by omega
      have hle : 9007199254740991 ≤ n / d := (Nat.le_div_iff_mul_le hd).mpr hmul
      omega
    rw [hq'] at hdiv
    rw [hq', if_pos]
    simp only [Bool.or_eq_true, decide_eq_true_eq, Bool.and_eq_true, beq_iff_eq, and_true]
    omega

/-- The value of a ratio in the largest binade is infinite exactly when its
significand rounds up to `2 ^ 53`: the carry takes its exponent past the
largest one. -/
theorem round_top_binade {negative : Bool} {num den : Nat} (hnum : num ≠ 0)
    (hk : floorLog2Ratio num den = 1023) :
    round negative num den 0 = .inf negative ↔ roundDivEven num (den * 2 ^ 970 * 2) = Nat.pow 2 53 := by
  have hq : max ((1023 : Int) - 52) (-1074) = 971 := by decide
  -- the exponent `971` stays symbolic, so that no power of it is evaluated
  have hsucc : ∀ e : Nat, Nat.pow 2 (e + 1) = 2 ^ e * 2 := fun e => by
    rw [Nat.pow_eq, pow_succ]
  unfold round
  rw [if_neg hnum, add_zero]
  generalize floorLog2Ratio num den = k at hk
  dsimp only
  subst hk
  rw [show maxExponent = 971 from rfl, show minExponent = -1074 from rfl, if_neg (by decide),
    if_neg (by decide), hq, if_neg (show ¬(0 : Int) ≤ 0 - 971 by decide),
    show (-(0 - 971 : Int)).toNat = 970 + 1 by decide, hsucc 970, ← Nat.mul_assoc]
  generalize den * 2 ^ 970 = Y
  by_cases hm : roundDivEven num (Y * 2) = Nat.pow 2 53
  · rw [if_pos hm]
    dsimp only
    rw [if_pos (by decide)]
    exact iff_of_true rfl hm
  · rw [if_neg hm]
    dsimp only
    rw [if_neg (by decide)]
    exact iff_of_false (by simp) hm

/-- Outside the largest binade, the value of a ratio is infinite exactly from
the binade of `2 ^ 1024` on: a carry moves the exponent `k - 52` up by one at
most. -/
theorem round_inf_iff_of_ne_top {negative : Bool} {num den : Nat} (hnum : num ≠ 0)
    (hk : floorLog2Ratio num den ≠ 1023) :
    round negative num den 0 = .inf negative ↔ 1024 ≤ floorLog2Ratio num den := by
  have hcarry : ∀ (c : Prop) [Decidable c] (a b : Nat) (q : Int),
      (if c then (a, q + 1) else (b, q)).2 ≤ q + 1 ∧ q ≤ (if c then (a, q + 1) else (b, q)).2 := by
    intro c _ a b q
    split <;> (dsimp only; omega)
  unfold round
  rw [if_neg hnum, add_zero]
  generalize floorLog2Ratio num den = k at hk ⊢
  dsimp only
  rw [show maxExponent = 971 from rfl, show minExponent = -1074 from rfl]
  by_cases hk1 : 1024 < k
  · rw [if_pos hk1]
    exact iff_of_true rfl (by omega)
  rw [if_neg hk1]
  by_cases hk0 : k < -1080
  · rw [if_pos hk0]
    exact iff_of_false (by simp [zero]) (by omega)
  rw [if_neg hk0]
  obtain rfl | hk3 : k = 1024 ∨ k ≤ 1022 := by omega
  · rw [if_pos (lt_of_lt_of_le (by decide) (hcarry _ _ _ _).2)]
    exact iff_of_true rfl (by decide)
  · rw [if_neg (not_lt_of_ge (le_trans (hcarry _ _ _ _).1 (by omega)))]
    exact iff_of_false (by simp) (by omega)

/-- A ratio has no finite value exactly when it reaches `2 ^ 1024 - 2 ^ 970`. -/
theorem round_eq_inf_iff (negative : Bool) {num den : Nat} (hden : den ≠ 0) :
    round negative num den 0 = .inf negative ↔ den * (2 ^ 1024 - 2 ^ 970) ≤ num := by
  -- every bound below is a multiple of `den * 2 ^ 970`
  rw [show (2 : Nat) ^ 1024 = 2 ^ 970 * 2 ^ 54 by rw [← pow_add], ← Nat.mul_sub_one,
    ← Nat.mul_assoc]
  norm_num
  have hY : 0 < den * 2 ^ 970 := Nat.mul_pos (Nat.pos_of_ne_zero hden) (by positivity)
  by_cases hnum : num = 0
  · subst hnum
    simp only [round, if_pos, zero, reduceCtorEq, false_iff]
    omega
  have h1023 := le_floorLog2Ratio_iff hnum hden 1023
  have h1024 := le_floorLog2Ratio_iff hnum hden 1024
  rw [show (2 : Nat) ^ 1023 = 2 ^ 970 * 2 ^ 53 by rw [← pow_add], ← Nat.mul_assoc] at h1023
  rw [show (2 : Nat) ^ 1024 = 2 ^ 970 * 2 ^ 54 by rw [← pow_add], ← Nat.mul_assoc] at h1024
  norm_num at h1023 h1024
  by_cases hk : floorLog2Ratio num den = 1023
  · -- the largest binade: the significand rounds up exactly from the midpoint
    rw [round_top_binade hnum hk]
    generalize den * 2 ^ 970 = Y at hY h1023 h1024 ⊢
    have hlt : num < Y * 2 * Nat.pow 2 53 := by
      have := mt h1024.mpr (by omega)
      rw [show Nat.pow 2 53 = 9007199254740992 from rfl]
      linarith
    rw [roundDivEven_eq_pow53_iff (by omega) hlt, show Nat.pow 2 53 = 9007199254740992 from rfl]
    constructor <;> intro h <;> linarith
  · -- any other binade: infinite exactly from the binade of `2 ^ 1024` on
    rw [round_inf_iff_of_ne_top hnum hk]
    generalize den * 2 ^ 970 = Y at hY h1023 h1024 ⊢
    constructor
    · intro h
      have := h1024.mp h
      linarith
    · intro h
      have := h1023.mpr (by linarith)
      omega

/-- A quotient by a divisor of at most `2 ^ 53` is never rounded to zero: its
binade is far above the subnormal range, so the significand is not zero. -/
theorem round_significand_pos {negative : Bool} {num den : Nat} (hnum : num ≠ 0) (hden : den ≠ 0)
    (hsmall : den ≤ 2 ^ 53) {s : Bool} {m : Nat} {e : Int}
    (h : round negative num den 0 = .finite s m e) : 0 < m := by
  have hlow := floorLog2Ratio_ge num den
  have hlog : den.log2 < 54 := (Nat.log2_lt hden).mpr (by omega)
  have hfloor := le_floorLog2Ratio_iff hnum hden
  unfold round at h
  rw [if_neg hnum, add_zero] at h
  generalize floorLog2Ratio num den = k at hlow hfloor h
  dsimp only at h
  rw [show minExponent = -1074 from rfl, show maxExponent = 971 from rfl] at h
  -- the exponent is `k - 52`, far above the least one
  have hq : max (k - 52) (-1074) = k - 52 := max_eq_left (by omega)
  by_cases hinf : 1024 < k
  · rw [if_pos hinf] at h
    cases h
  rw [if_neg hinf, if_neg (by omega), hq] at h
  simp only [Nat.pow_eq] at h
  -- the significand before a carry is positive: the scaled quotient reaches the divisor
  have hsig : 0 < (if 0 ≤ 0 - (k - 52) then roundDivEven (num * 2 ^ (0 - (k - 52)).toNat) den
      else roundDivEven num (den * 2 ^ (-(0 - (k - 52))).toNat)) := by
    split
    · apply roundDivEven_pos (Nat.pos_of_ne_zero hden)
      by_cases hk : 0 ≤ k
      · have := (hfloor k.toNat).mp (by omega)
        calc den ≤ den * 2 ^ k.toNat := Nat.le_mul_of_pos_right _ (by positivity)
          _ ≤ num := this
          _ ≤ num * 2 ^ (0 - (k - 52)).toNat := Nat.le_mul_of_pos_right _ (by positivity)
      · calc den ≤ 2 ^ 53 := hsmall
          _ ≤ 2 ^ (0 - (k - 52)).toNat := Nat.pow_le_pow_right two_pos (by omega)
          _ ≤ num * 2 ^ (0 - (k - 52)).toNat := Nat.le_mul_of_pos_left _ (by omega)
    · apply roundDivEven_pos (by positivity)
      calc den * 2 ^ (-(0 - (k - 52))).toNat ≤ den * 2 ^ k.toNat :=
            Nat.mul_le_mul_left _ (Nat.pow_le_pow_right two_pos (by omega))
        _ ≤ num := (hfloor k.toNat).mp (by omega)
  generalize (if 0 ≤ 0 - (k - 52) then roundDivEven (num * 2 ^ (0 - (k - 52)).toNat) den
      else roundDivEven num (den * 2 ^ (-(0 - (k - 52))).toNat)) = M at h hsig
  by_cases hm : M = 2 ^ 53
  · -- a carry leaves the significand `2 ^ 52`
    rw [if_pos hm] at h
    dsimp only at h
    split at h
    · cases h
    · cases h
      positivity
  · rw [if_neg hm] at h
    dsimp only at h
    split at h
    · cases h
    · cases h
      exact hsig

theorem round_ne_nan (negative : Bool) (num den : Nat) (scale : Int) :
    round negative num den scale ≠ .nan := by
  unfold round
  dsimp only
  split_ifs <;> simp [zero]

/-- A finite value is below zero exactly when it is negative and not a zero. -/
theorem finite_lt_zero (s : Bool) (m : Nat) (e : Int) :
    (finite s m e).lt (zero false) = (s && m != 0) := by
  by_cases hm : m = 0 <;> cases s <;> simp [lt, compare?, compareFinite, zero, hm]

/-! ## Quotients of integers -/

/-- The quotient of two integers is too large to be finite exactly when it
reaches `2 ^ 1024 - 2 ^ 970`, the midpoint between the largest finite value
and `2 ^ 1024`. -/
theorem divInt?_eq_none_iff (a : Int) {b : Int} (hb : b ≠ 0) :
    divInt? a b = none ↔ b.natAbs * (2 ^ 1024 - 2 ^ 970) ≤ a.natAbs := by
  rw [← round_eq_inf_iff ((a < 0) != (b < 0)) (Int.natAbs_ne_zero.mpr hb)]
  unfold divInt?
  rw [if_neg hb]
  split
  · next s hr =>
    have hs := round_signBit ((a < 0) != (b < 0)) a.natAbs b.natAbs 0
    rw [hr] at hs ⊢
    simp only [signBit] at hs
    simp [hs]
  · next x hx =>
    simp only [reduceCtorEq, false_iff]
    exact hx _

theorem divInt?_eq_some {a b : Int} {x : Binary64} (h : divInt? a b = some x) :
    x = round ((a < 0) != (b < 0)) a.natAbs b.natAbs 0 := by
  unfold divInt? at h
  split at h
  · cases h
  · split at h
    · cases h
    · exact (Option.some.inj h).symm

end Binary64

open Binary64

/-! ## Seconds of milliseconds -/

/-- A count of milliseconds has no finite number of seconds exactly from
`1000 * (2 ^ 1024 - 2 ^ 970)` on, either way from zero. -/
theorem divInt?_thousand_eq_none_iff (ms : Int) :
    divInt? ms 1000 = none ↔ 1000 * (2 ^ 1024 - 2 ^ 970) ≤ ms.natAbs := by
  rw [divInt?_eq_none_iff ms (show (1000 : Int) ≠ 0 by decide),
    show (1000 : Int).natAbs = 1000 from rfl]

/-- Milliseconds whose number of seconds is too large to be finite. -/
theorem secondsOfMillis_overflow {ms : Int} (h : 1000 * (2 ^ 1024 - 2 ^ 970) ≤ ms.natAbs) :
    secondsOfMillis ms = .error (.overflow "integer division result too large for a float") := by
  simp [secondsOfMillis, (divInt?_thousand_eq_none_iff ms).mpr h]

/-- Otherwise the number of seconds is the value nearest to `ms / 1000`. -/
theorem secondsOfMillis_ok {ms : Int} (h : ¬1000 * (2 ^ 1024 - 2 ^ 970) ≤ ms.natAbs) :
    secondsOfMillis ms = .ok (round (decide (ms < 0)) ms.natAbs 1000 0) := by
  have hne : divInt? ms 1000 ≠ none := mt (divInt?_thousand_eq_none_iff ms).mp h
  obtain ⟨x, hx⟩ := Option.ne_none_iff_exists'.mp hne
  have hround := divInt?_eq_some hx
  simp only [secondsOfMillis, hx, hround]
  simp

/-- The number of seconds is below zero exactly when the milliseconds are. -/
theorem secondsOfMillis_lt_zero {ms : Int} (h : ¬1000 * (2 ^ 1024 - 2 ^ 970) ≤ ms.natAbs) :
    (round (decide (ms < 0)) ms.natAbs 1000 0).lt (zero false) = decide (ms < 0) := by
  have hsign := round_signBit (decide (ms < 0)) ms.natAbs 1000 0
  cases hr : round (decide (ms < 0)) ms.natAbs 1000 0 with
  | nan => exact absurd hr (round_ne_nan _ _ _ _)
  | inf s =>
    rw [hr] at hsign
    obtain rfl : s = decide (ms < 0) := hsign
    exact absurd ((round_eq_inf_iff _ (by decide)).mp hr) h
  | finite s m e =>
    rw [hr] at hsign
    obtain rfl : s = decide (ms < 0) := hsign
    rw [finite_lt_zero]
    by_cases hms : ms = 0
    · simp [hms]
    · have hm := round_significand_pos (Int.natAbs_ne_zero.mpr hms) (by decide) (by norm_num) hr
      simp [Nat.pos_iff_ne_zero.mp hm]

/-! ## The policy of the settings -/

/-- **The policy of the settings.** Seen through its four fields, the policy
of any settings is an overflow when either millisecond count is too large for
its number of seconds to be finite; else the fault of too few attempts; else
the fault of a negative interval; else the attempts, the float nearest to each
count divided by 1000, and the factor. -/
theorem Policy.ofSettings_outcomes (s : Settings) :
    (Policy.ofSettings s).map
        (fun p => (p.maxAttempts, p.initialInterval, p.multiplier, p.maxInterval)) =
      if 1000 * (2 ^ 1024 - 2 ^ 970) ≤ s.retryInitialIntervalMs.natAbs ∨
          1000 * (2 ^ 1024 - 2 ^ 970) ≤ s.retryMaxIntervalMs.natAbs then
        .error (.overflow "integer division result too large for a float")
      else if s.retryMaxAttempts < 1 then .error (.badValue "max_attempts must be at least 1")
      else if s.retryInitialIntervalMs < 0 ∨ s.retryMaxIntervalMs < 0 then
        .error (.badValue "backoff intervals must not be negative")
      else .ok (s.retryMaxAttempts.toNat, round false s.retryInitialIntervalMs.toNat 1000 0,
        s.retryMultiplier, round false s.retryMaxIntervalMs.toNat 1000 0) := by
  unfold Policy.ofSettings
  by_cases hi : 1000 * (2 ^ 1024 - 2 ^ 970) ≤ s.retryInitialIntervalMs.natAbs
  · -- the first interval is converted first, and its overflow ends the call
    rw [secondsOfMillis_overflow hi, if_pos (Or.inl hi)]
    rfl
  by_cases hc : 1000 * (2 ^ 1024 - 2 ^ 970) ≤ s.retryMaxIntervalMs.natAbs
  · rw [secondsOfMillis_ok hi, secondsOfMillis_overflow hc, if_pos (Or.inr hc)]
    rfl
  rw [secondsOfMillis_ok hi, secondsOfMillis_ok hc, if_neg (not_or.mpr ⟨hi, hc⟩)]
  -- both intervals are finite, and the policy's own checks decide
  have hlti := secondsOfMillis_lt_zero hi
  have hltc := secondsOfMillis_lt_zero hc
  show (Policy.make _ _ _ _).map _ = _
  unfold Policy.make
  by_cases ha : s.retryMaxAttempts < 1
  · rw [dif_neg (by omega), if_pos ha]
    rfl
  rw [dif_pos (by omega), if_neg ha]
  by_cases hni : s.retryInitialIntervalMs < 0
  · rw [dif_neg (by rw [hlti]; simpa using hni), if_pos (Or.inl hni)]
    rfl
  have hi₀ : (round (decide (s.retryInitialIntervalMs < 0)) s.retryInitialIntervalMs.natAbs 1000 0).lt
      (zero false) = false := by rw [hlti]; simpa using hni
  by_cases hnc : s.retryMaxIntervalMs < 0
  · rw [dif_pos hi₀, dif_neg (by rw [hltc]; simpa using hnc), if_pos (Or.inr hnc)]
    rfl
  rw [dif_pos hi₀, dif_pos (by rw [hltc]; simpa using hnc), if_neg (not_or.mpr ⟨hni, hnc⟩)]
  -- counts that are not negative: their magnitude is their value
  have hi' : s.retryInitialIntervalMs.natAbs = s.retryInitialIntervalMs.toNat := by omega
  have hc' : s.retryMaxIntervalMs.natAbs = s.retryMaxIntervalMs.toNat := by omega
  simp [Except.map, hni, hnc, hi', hc']

/-- A first interval too large to convert is neither of the policy's faults. -/
theorem Policy.ofSettings_overflow_huge_interval :
    let s := { Settings.defaults with retryInitialIntervalMs := 10 ^ 400 }
    ¬(s.retryMaxAttempts < 1 ∨ s.retryInitialIntervalMs < 0 ∨ s.retryMaxIntervalMs < 0) ∧
      Policy.ofSettings s = .error (.overflow "integer division result too large for a float") := by
  refine ⟨by norm_num [Settings.defaults], ?_⟩
  unfold Policy.ofSettings
  rw [secondsOfMillis_overflow (by decide +kernel)]
  rfl

end EmployeeGateway
