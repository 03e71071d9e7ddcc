import EmployeeGateway.Binary64.TablePower

/-!
# Integer powers of binary64 numbers

`Binary64.powInt x w` raises `x` to the integer `w`. The exponent is first
taken to its nearest binary64 value (an integer too large for that is a
fault), then the special cases are settled exactly: any base to the power zero
is one, NaN stays NaN, infinities and zeros keep their sign for odd exponents,
zero to a negative power is a fault, and a base of magnitude one gives `±1`.
Every other power is `Binary64.tablePow` of the magnitude, negated for a
negative base and an odd exponent; a result too large to be finite is a
fault, and one too small becomes zero.

`tablePow` is within a fraction of a unit in the last place of the exact
power but not always the nearest value: `3 ^ 34` is `16677181699666570`
here, one unit above the nearest binary64 value, as in the math library
whose answers the service reports.
-/

namespace EmployeeGateway

/-- Why an integer power has no binary64 value. -/
inductive PowerFault where
  /-- The integer exponent is too large to have a finite binary64 value. -/
  | exponentTooLarge
  /-- Zero was raised to a negative power. -/
  | zeroToNegative
  /-- The operands are finite but the power is too large to be finite. -/
  | outOfRange
  deriving Repr, DecidableEq, Inhabited

namespace Binary64

/-! ## The power -/

/-- `x` raised to the integer `w`, with the exponent first rounded to binary64
and the special cases settled as described above. -/
def powInt (x : Binary64) (w : Int) : Except PowerFault Binary64 :=
  match ofInt? w with
  | none => .error .exponentTooLarge
  | some y =>
    let n := (toInt? y).getD 0
    let odd := n % 2 == 1
    if n = 0 then .ok one
    else
      match x with
      | .nan => .ok .nan
      | .inf s => if 0 < n then .ok (.inf (s && odd)) else .ok (zero (s && odd))
      | .finite s m e =>
        if m = 0 then
          if n < 0 then .error .zeroToNegative else .ok (zero (s && odd))
        else
          let negate := s && odd
          if compareMagnitude m e 1 0 == .eq then
            .ok (if negate then neg one else one)
          else
            match tablePow (.finite false m e) y with
            | .inf _ => .error .outOfRange
            | r => .ok (if negate then neg r else r)

end Binary64

end EmployeeGateway
