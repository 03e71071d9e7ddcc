/-!
# IEEE 754 binary64 numbers as exact values

A `Binary64` is NaN, a signed infinity, or a signed finite value
`significand * 2 ^ exponent`. Finite values are built by `Binary64.round`,
which takes an exact positive ratio `num / den * 2 ^ scale` to the nearest
representable value, a tie going to the even significand. Its results are
canonical: the significand is below `2 ^ 53`, the exponent lies in
`[minExponent, maxExponent]`, and a significand below `2 ^ 52` occurs only at
`minExponent` (the subnormal range).

All arithmetic is on `Nat` and `Int`, so every operation here can be evaluated
by the kernel and reasoned about; no hardware float is involved.

Main operations: `round`, `ofInt?`, `divInt?`, `mul`, `add`, `sub`, `fma`,
`neg`, the order `compare?` with `lt` and `le`, and the integral view
`toInt?`. The order read the other way round is swapped (`compare?_swap`),
so no value is below itself and `minLeft a b` is never above `b`.
-/

namespace EmployeeGateway

/-- An IEEE 754 binary64 number: NaN, a signed infinity, or the finite value
`(-1) ^ negative * significand * 2 ^ exponent`. -/
inductive Binary64 where
  | nan
  | inf (negative : Bool)
  | finite (negative : Bool) (significand : Nat) (exponent : Int)
  deriving Repr, Inhabited, DecidableEq

namespace Binary64

/-- Exponent of the least binade, shared by the subnormal values and the
smallest normal binade. -/
def minExponent : Int := -1074

/-- Exponent of the greatest binade. -/
def maxExponent : Int := 971

/-- A signed zero. -/
def zero (negative : Bool) : Binary64 := .finite negative 0 minExponent

/-- Positive one. -/
def one : Binary64 := .finite false (Nat.pow 2 52) (-52)

/-! ## Rounding -/

/-- `⌊log₂ (num / den)⌋` for positive `num` and `den`. The bit lengths give it
up to one, and one comparison settles which. -/
def floorLog2Ratio (num den : Nat) : Int :=
  let t : Int := (Nat.log2 num : Int) - (Nat.log2 den : Int)
  if 0 ≤ t then
    if den * Nat.pow 2 t.toNat ≤ num then t else t - 1
  else
    if den ≤ num * Nat.pow 2 (-t).toNat then t else t - 1

/-- Nearest integer to `n / d`, a tie going to the even one. -/
def roundDivEven (n d : Nat) : Nat :=
  let q := n / d
  let r := n % d
  if d < 2 * r || (2 * r == d && q % 2 == 1) then q + 1 else q

/-- The value nearest to `(-1) ^ negative * num / den * 2 ^ scale`, a tie
going to the even significand; `den` must be positive. Values at or beyond
`2 ^ 1024 - 2 ^ 970` become infinite and values at or below `2 ^ -1075`
become zero, as round-to-nearest requires. -/
def round (negative : Bool) (num den : Nat) (scale : Int) : Binary64 :=
  if num = 0 then zero negative
  else
    let k := floorLog2Ratio num den + scale
    if 1024 < k then .inf negative
    else if k < -1080 then zero negative
    else
      let q := max (k - 52) minExponent
      let shift := scale - q
      let m :=
        if 0 ≤ shift then roundDivEven (num * Nat.pow 2 shift.toNat) den
        else roundDivEven num (den * Nat.pow 2 (-shift).toNat)
      let (m, q) := if m = Nat.pow 2 53 then (Nat.pow 2 52, q + 1) else (m, q)
      if maxExponent < q then .inf negative else .finite negative m q

/-! ## Classification and sign -/

/-- Is the value NaN? -/
def isNaN : Binary64 → Bool
  | .nan => true
  | _ => false

/-- Is the value finite? -/
def isFinite : Binary64 → Bool
  | .finite .. => true
  | _ => false

/-- Is the value a zero of either sign? -/
def isZero : Binary64 → Bool
  | .finite _ m _ => m == 0
  | _ => false

/-- The sign bit; NaN counts as positive. -/
def signBit : Binary64 → Bool
  | .nan => false
  | .inf s => s
  | .finite s _ _ => s

/-- Flip the sign. -/
def neg : Binary64 → Binary64
  | .nan => .nan
  | .inf s => .inf (!s)
  | .finite s m e => .finite (!s) m e

/-- Drop the sign. -/
def abs : Binary64 → Binary64
  | .nan => .nan
  | .inf _ => .inf false
  | .finite _ m e => .finite false m e

/-! ## Conversions from integers -/

/-- The value nearest to an integer, or `none` when it is too large to be
finite. -/
def ofInt? (i : Int) : Option Binary64 :=
  match round (i < 0) i.natAbs 1 0 with
  | .inf _ => none
  | x => some x

/-- The value nearest to the quotient `a / b` of two integers, or `none` when
`b` is zero or the quotient is too large to be finite. -/
def divInt? (a b : Int) : Option Binary64 :=
  if b = 0 then none
  else
    match round ((a < 0) != (b < 0)) a.natAbs b.natAbs 0 with
    | .inf _ => none
    | x => some x

/-! ## Order -/

/-- Compare the magnitudes `m₁ * 2 ^ e₁` and `m₂ * 2 ^ e₂`. -/
def compareMagnitude (m₁ : Nat) (e₁ : Int) (m₂ : Nat) (e₂ : Int) : Ordering :=
  if e₁ ≤ e₂ then compare m₁ (m₂ * Nat.pow 2 (e₂ - e₁).toNat)
  else compare (m₁ * Nat.pow 2 (e₁ - e₂).toNat) m₂

/-- Compare two finite values; zeros of either sign are equal. -/
def compareFinite (s₁ : Bool) (m₁ : Nat) (e₁ : Int) (s₂ : Bool) (m₂ : Nat) (e₂ : Int) :
    Ordering :=
  if m₁ == 0 && m₂ == 0 then .eq
  else if m₂ == 0 then (if s₁ then .lt else .gt)
  else if m₁ == 0 then (if s₂ then .gt else .lt)
  else
    match s₁, s₂ with
    | false, false => compareMagnitude m₁ e₁ m₂ e₂
    | true, true => compareMagnitude m₂ e₂ m₁ e₁
    | false, true => .gt
    | true, false => .lt

/-- The order of the extended reals, or `none` when either side is NaN. -/
def compare? : Binary64 → Binary64 → Option Ordering
  | .nan, _ => none
  | _, .nan => none
  | .inf s₁, .inf s₂ => some (if s₁ == s₂ then .eq else if s₁ then .lt else .gt)
  | .inf s, .finite .. => some (if s then .lt else .gt)
  | .finite .., .inf s => some (if s then .gt else .lt)
  | .finite s₁ m₁ e₁, .finite s₂ m₂ e₂ => some (compareFinite s₁ m₁ e₁ s₂ m₂ e₂)

/-- `a < b`; false whenever a NaN is involved. -/
def lt (a b : Binary64) : Bool := compare? a b == some .lt

/-- `a ≤ b`; false whenever a NaN is involved. -/
def le (a b : Binary64) : Bool :=
  match compare? a b with
  | some .lt => true
  | some .eq => true
  | _ => false

/-- Numeric equality; NaN equals nothing, and the two zeros are equal. -/
def numEq (a b : Binary64) : Bool := compare? a b == some .eq

/-- The smaller of two values, keeping the first unless the second is
strictly below it (so a NaN first argument is kept). -/
def minLeft (a b : Binary64) : Binary64 := if lt b a then b else a

/-! ## The order read both ways -/

theorem compareMagnitude_swap (m₁ : Nat) (e₁ : Int) (m₂ : Nat) (e₂ : Int) :
    (compareMagnitude m₁ e₁ m₂ e₂).swap = compareMagnitude m₂ e₂ m₁ e₁ := by
  unfold compareMagnitude
  by_cases h₁ : e₁ ≤ e₂ <;> by_cases h₂ : e₂ ≤ e₁
  · -- equal exponents: neither side is scaled
    obtain rfl : e₁ = e₂ := by omega
    simp [Nat.compare_swap]
  · simp [h₁, h₂, Nat.compare_swap]
  · simp [h₁, h₂, Nat.compare_swap]
  · omega

theorem compareFinite_swap (s₁ : Bool) (m₁ : Nat) (e₁ : Int) (s₂ : Bool) (m₂ : Nat) (e₂ : Int) :
    (compareFinite s₁ m₁ e₁ s₂ m₂ e₂).swap = compareFinite s₂ m₂ e₂ s₁ m₁ e₁ := by
  unfold compareFinite
  by_cases h₁ : m₁ = 0 <;> by_cases h₂ : m₂ = 0 <;> cases s₁ <;> cases s₂ <;>
    simp [h₁, h₂, compareMagnitude_swap]

/-- Comparing the other way round swaps the answer. -/
theorem compare?_swap (a b : Binary64) : (compare? a b).map Ordering.swap = compare? b a := by
  cases a with
  | nan => cases b <;> rfl
  | inf s₁ =>
    cases b with
    | nan => rfl
    | inf s₂ => cases s₁ <;> cases s₂ <;> rfl
    | finite => cases s₁ <;> rfl
  | finite s₁ m₁ e₁ =>
    cases b with
    | nan => rfl
    | inf s₂ => cases s₂ <;> rfl
    | finite s₂ m₂ e₂ => simp only [compare?, Option.map_some, compareFinite_swap]

theorem compare?_isSome {a b : Binary64} (ha : a.isNaN = false) (hb : b.isNaN = false) :
    ∃ o, compare? a b = some o := by
  cases a <;> cases b <;> simp_all [isNaN, compare?]

/-- No value is below itself. -/
theorem lt_self (x : Binary64) : x.lt x = false := by
  have hswap := compare?_swap x x
  unfold lt
  cases hx : compare? x x with
  | none => rfl
  | some o =>
    rw [hx] at hswap
    cases o <;> simp_all

/-- Of two values that are not NaN, one that is not below the other is above
or equal to it. -/
theorem le_of_lt_eq_false {a b : Binary64} (ha : a.isNaN = false) (hb : b.isNaN = false)
    (h : b.lt a = false) : a.le b = true := by
  obtain ⟨o, hba⟩ := compare?_isSome hb ha
  have hab : compare? a b = some o.swap := by
    rw [← compare?_swap, hba]
    rfl
  unfold lt at h
  unfold le
  rw [hba] at h
  rw [hab]
  cases o <;> simp_all

/-- The minimum is never above its second argument. -/
theorem minLeft_not_above (a b : Binary64) : b.lt (minLeft a b) = false := by
  unfold minLeft
  split
  · exact lt_self b
  · next h => simpa using h

/-! ## Multiplication -/

/-- The IEEE product, rounded to nearest. -/
def mul : Binary64 → Binary64 → Binary64
  | .nan, _ => .nan
  | _, .nan => .nan
  | .inf s₁, .inf s₂ => .inf (s₁ != s₂)
  | .inf s₁, .finite s₂ m _ => if m = 0 then .nan else .inf (s₁ != s₂)
  | .finite s₁ m _, .inf s₂ => if m = 0 then .nan else .inf (s₁ != s₂)
  | .finite s₁ m₁ e₁, .finite s₂ m₂ e₂ => round (s₁ != s₂) (m₁ * m₂) 1 (e₁ + e₂)

/-! ## Addition and fused multiply-add -/

/-- The value nearest to the exact sum `(-1) ^ s₁ * m₁ * 2 ^ e₁ + (-1) ^ s₂ * m₂ * 2 ^ e₂`.
An exact zero is negative only when both terms are negative, as rounding to
nearest requires. -/
def sumRounded (s₁ : Bool) (m₁ : Nat) (e₁ : Int) (s₂ : Bool) (m₂ : Nat) (e₂ : Int) : Binary64 :=
  let e := min e₁ e₂
  let a : Int := (m₁ * Nat.pow 2 (e₁ - e).toNat : Nat)
  let b : Int := (m₂ * Nat.pow 2 (e₂ - e).toNat : Nat)
  let total := (if s₁ then -a else a) + (if s₂ then -b else b)
  if total = 0 then zero (s₁ && s₂)
  else round (total < 0) total.natAbs 1 e

/-- The IEEE sum, rounded to nearest. -/
def add : Binary64 → Binary64 → Binary64
  | .nan, _ => .nan
  | _, .nan => .nan
  | .inf s₁, .inf s₂ => if s₁ == s₂ then .inf s₁ else .nan
  | .inf s, .finite .. => .inf s
  | .finite .., .inf s => .inf s
  | .finite s₁ m₁ e₁, .finite s₂ m₂ e₂ => sumRounded s₁ m₁ e₁ s₂ m₂ e₂

/-- The IEEE difference, rounded to nearest. -/
def sub (a b : Binary64) : Binary64 := add a (neg b)

/-- The fused multiply-add `a * b + c`, rounded once. -/
def fma (a b c : Binary64) : Binary64 :=
  match a, b, c with
  | .finite s₁ m₁ e₁, .finite s₂ m₂ e₂, .finite s₃ m₃ e₃ =>
    sumRounded (s₁ != s₂) (m₁ * m₂) (e₁ + e₂) s₃ m₃ e₃
  | .finite .., .finite .., c => c
  | a, b, c => add (mul a b) c

/-! ## Integral values -/

/-- The integer a finite value equals, or `none` if it is not finite or has a
fractional part. -/
def toInt? : Binary64 → Option Int
  | .finite s m e =>
    if 0 ≤ e then
      let n : Int := (m * Nat.pow 2 e.toNat : Nat)
      some (if s then -n else n)
    else if m % Nat.pow 2 (-e).toNat = 0 then
      let n : Int := (m / Nat.pow 2 (-e).toNat : Nat)
      some (if s then -n else n)
    else none
  | _ => none

/-- Is the value a finite integer? -/
def isIntegral (x : Binary64) : Bool := (toInt? x).isSome

/-- Is the value an odd integer? -/
def isOddIntegral (x : Binary64) : Bool :=
  match toInt? x with
  | some n => n % 2 == 1
  | none => false

end Binary64

end EmployeeGateway
