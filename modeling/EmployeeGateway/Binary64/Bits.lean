import EmployeeGateway.Binary64.Basic

/-!
# The bit layout of binary64 numbers

A binary64 number is stored in 64 bits: the sign, an 11-bit biased exponent
and a 52-bit fraction. `Binary64.ofBits` reads a bit pattern and
`Binary64.toBits` writes one; on canonical values (those `round` builds) they
are inverse to each other. An exponent field of zero holds the zeros and
subnormals, `2047` the infinities (fraction zero) and NaN (any other
fraction); any other field `E` holds `(2 ^ 52 + fraction) * 2 ^ (E - 1075)`.

Bit patterns are natural numbers below `2 ^ 64`; `wrap` reduces an integer
into that range as machine words do.
-/

namespace EmployeeGateway

namespace Binary64

/-- `2 ^ 64`, the number of bit patterns. -/
def wordSize : Nat := Nat.pow 2 64

/-- An integer reduced to a 64-bit pattern. -/
def wrap (i : Int) : Nat := (i % (wordSize : Int)).toNat

/-- A 64-bit pattern read as a two's complement integer. -/
def signedOf (u : Nat) : Int := if u < Nat.pow 2 63 then u else (u : Int) - wordSize

/-- The number a bit pattern stores. -/
def ofBits (b : Nat) : Binary64 :=
  let negative := b / Nat.pow 2 63 % 2 == 1
  let field : Nat := b / Nat.pow 2 52 % 2048
  let fraction : Nat := b % Nat.pow 2 52
  if field = 2047 then (if fraction = 0 then .inf negative else .nan)
  else if field = 0 then .finite negative fraction minExponent
  else .finite negative (fraction + Nat.pow 2 52) ((field : Int) - 1075)

/-- The bit pattern of a canonical number; NaN is written as the quiet NaN
`0x7FF8000000000000`. -/
def toBits : Binary64 → Nat
  | .nan => 0x7FF8000000000000
  | .inf s => (if s then Nat.pow 2 63 else 0) + 2047 * Nat.pow 2 52
  | .finite s m e =>
    let sign := if s then Nat.pow 2 63 else 0
    if m < Nat.pow 2 52 then sign + m
    else sign + (e + 1075).toNat * Nat.pow 2 52 + (m - Nat.pow 2 52)

/-- The sign and exponent field of a number: the top twelve bits. -/
def top12 (x : Binary64) : Nat := toBits x / Nat.pow 2 52

end Binary64

end EmployeeGateway
