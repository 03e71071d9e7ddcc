import EmployeeGateway.Binary64.Basic

/-!
# Shortest decimal digits of a binary64 value

A positive finite binary64 value `v = m * 2 ^ e` is the rounding of every real
in its rounding interval: half a unit in the last place on each side (a
quarter below at the bottom of a binade), the ends included exactly when `m`
is even. `Binary64.shortest` finds the decimal `c * 10 ^ E` with the fewest
significant digits inside that interval, and of two such the nearer to `v`.

For `p = 1, 2, …, 17` digits the decimal grid of step `10 ^ (k - p + 1)`,
where `10 ^ k ≤ v < 10 ^ (k + 1)`, has two neighbours of `v`; if any point of
the grid lies in the interval then one of these two does, so testing them is
enough. Seventeen digits always suffice. Everything is exact `Nat`
arithmetic.
-/

namespace EmployeeGateway

/-- A positive decimal `digits * 10 ^ exponent`. -/
structure Decimal where
  digits : Nat
  exponent : Int
  deriving Repr, DecidableEq, Inhabited

namespace Decimal

/-- Drop trailing zero digits, moving them into the exponent. -/
def normalize : Nat → Decimal → Decimal
  | 0, d => d
  | fuel + 1, d =>
    if d.digits != 0 && d.digits % 10 == 0 then normalize fuel ⟨d.digits / 10, d.exponent + 1⟩
    else d

/-- Number of decimal digits of a positive number (one for zero). -/
def digitCount (n : Nat) : Nat := (Nat.toDigits 10 n).length

end Decimal

namespace Binary64

/-- Compare `c * 10 ^ E` with `X * 2 ^ s`. -/
def compareScaled (c : Nat) (E : Int) (X : Nat) (s : Int) : Ordering :=
  compare (c * Nat.pow 10 E.toNat * Nat.pow 2 (-s).toNat) (X * Nat.pow 2 s.toNat * Nat.pow 10 (-E).toNat)

/-- Is `m * 2 ^ e ≥ 10 ^ j`? -/
def atLeastPow10 (m : Nat) (e : Int) (j : Int) : Bool :=
  compareScaled 1 j m e != .gt

/-- Step an estimate of `⌊log₁₀ (m * 2 ^ e)⌋` to the exact value. -/
def fixLog10 (m : Nat) (e : Int) : Nat → Int → Int
  | 0, k => k
  | fuel + 1, k =>
    if !atLeastPow10 m e k then fixLog10 m e fuel (k - 1)
    else if atLeastPow10 m e (k + 1) then fixLog10 m e fuel (k + 1)
    else k

/-- `⌊log₁₀ (m * 2 ^ e)⌋` for a positive `m`. -/
def floorLog10 (m : Nat) (e : Int) : Int :=
  let estimate := ((Nat.log2 m : Int) + e) * 30103 / 100000
  fixLog10 m e 8 estimate

/-- The shortest decimal that rounds back to `m * 2 ^ e` (a positive finite
value), found by testing the two grid neighbours for `p = 1, …, 17` digits. -/
def shortestFrom (m : Nat) (e : Int) (k : Int) : Nat → Nat → Decimal
  | 0, _ => ⟨m, 0⟩
  | fuel + 1, p =>
    let even := m % 2 == 0
    -- interval ends and the value itself, in units of 2 ^ (e - 2)
    let lowEnd := if m == Nat.pow 2 52 && minExponent < e then 4 * m - 1 else 4 * m - 2
    let highEnd := 4 * m + 2
    let s := e - 2
    let E := k - (p : Int) + 1
    let inside (c : Nat) : Bool :=
      let lo := compareScaled c E lowEnd s
      let hi := compareScaled c E highEnd s
      (lo == .gt || (even && lo == .eq)) && (hi == .lt || (even && hi == .eq))
    let cLo := m * Nat.pow 2 e.toNat * Nat.pow 10 (-E).toNat / (Nat.pow 2 (-e).toNat * Nat.pow 10 E.toNat)
    let cHi := cLo + 1
    match inside cLo, inside cHi with
    | true, true =>
      match compareScaled (2 * cLo + 1) E (8 * m) s with
      | .gt => ⟨cLo, E⟩
      | .lt => ⟨cHi, E⟩
      | .eq => if cLo % 2 == 0 then ⟨cLo, E⟩ else ⟨cHi, E⟩
    | true, false => ⟨cLo, E⟩
    | false, true => ⟨cHi, E⟩
    | false, false => shortestFrom m e k fuel (p + 1)

/-- The shortest decimal that rounds to the positive finite value
`m * 2 ^ e`, with no trailing zero digits. -/
def shortestOf (m : Nat) (e : Int) : Decimal :=
  let d := shortestFrom m e (floorLog10 m e) 17 1
  Decimal.normalize (Decimal.digitCount d.digits) d

end Binary64

end EmployeeGateway
