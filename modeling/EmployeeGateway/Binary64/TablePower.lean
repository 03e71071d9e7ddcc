import EmployeeGateway.Binary64.Bits
import EmployeeGateway.Binary64.PowerTable

/-!
# The binary64 power by tables

`Binary64.tablePow x y` is `x ^ y` for a positive finite `x ≠ 1` and a finite
`y ≠ 0`, computed as `exp (y * log x)` in binary64 arithmetic with a fixed
order of operations, so that every bit of the result is determined:

* `log x` is found as a double-double `hi + lo`: `x = 2 ^ k * z` with `z`
  near one, `log x = k * log 2 + log c + log (z / c)` for the point `c` of
  `logTable` nearest `z`, and `log (1 + r)` for `r = z / c - 1` by a
  polynomial of degree seven;
* `y * (hi + lo)` is again split into `ehi + elo`;
* `exp (ehi + elo) = 2 ^ (k / 128) * exp r` with `|r| ≤ log 2 / 256`,
  `2 ^ (k / 128)` from `expTable` and `exp r - 1` by a polynomial of degree
  five; the result is `scale + scale * tmp`.

The fused multiply-adds of the evaluation are rounded once. Arguments of
`exp` beyond `±1024` overflow or underflow at once, and those from `512` on
are scaled by `2 ^ ±1009` or `2 ^ 1022` around the last step so that no
intermediate value leaves the normal range; a result in the subnormal range
is then rounded in two parts so that it is rounded only once.

The result may be infinite (the power overflows) or zero (it underflows).
-/

namespace EmployeeGateway

namespace Binary64

/-! ## Constants -/

/-- `log 2` to 42 bits, so that its small multiples are exact. -/
def ln2hi : Binary64 := ofBits 0x3FE62E42FEFA3800

/-- The rest of `log 2`. -/
def ln2lo : Binary64 := ofBits 0x3D2EF35793C76730

/-- The coefficients of `log (1 + r) - r`, scaled for the evaluation. -/
def logCoefficients : List Binary64 :=
  [0xBFE0000000000000, 0xBFE5555555555560, 0x3FE0000000000006, 0x3FE999999959554E,
    0xBFE555555529A47A, 0xBFF2495B9B4845E9, 0x3FF0002B8B263FC3].map ofBits

/-- The `i`-th coefficient of `logCoefficients`. -/
def logCoefficient (i : Nat) : Binary64 := logCoefficients.getD i (zero false)

/-- The offset that centres the reduced argument `z` around one. -/
def logOffset : Nat := 0x3FE6955500000000

/-- `128 / log 2`. -/
def invLn2N : Binary64 := ofBits 0x40671547652B82FE

/-- `1.5 * 2 ^ 52`: adding it rounds to an integer. -/
def roundingShift : Binary64 := ofBits 0x4338000000000000

/-- `-log 2 / 128` to 37 bits. -/
def negLn2hiN : Binary64 := ofBits 0xBF762E42FEFA0000

/-- The rest of `-log 2 / 128`. -/
def negLn2loN : Binary64 := ofBits 0xBD0CF79ABC9E3B3A

/-- The coefficients of `exp r - 1 - r`, from the square on. -/
def expCoefficients : List Binary64 :=
  [0x3FDFFFFFFFFFFDBD, 0x3FC555555555543C, 0x3FA55555CF172B91, 0x3F81111167A4D017].map ofBits

/-- The `i`-th coefficient of `expCoefficients`, the first being that of `r ^ 2`. -/
def expCoefficient (i : Nat) : Binary64 := expCoefficients.getD i (zero false)

/-- A power of two by its bit pattern: `2 ^ 1009`. -/
def twoPow1009 : Binary64 := ofBits 0x7F00000000000000

/-- `2 ^ -1022`, the least positive normal number. -/
def twoPowNeg1022 : Binary64 := ofBits 0x0010000000000000

/-- `2 ^ 52`. -/
def twoPow52 : Binary64 := ofBits 0x4330000000000000

/-- The bits of `1`. -/
def oneBits : Nat := 0x3FF0000000000000

/-! ## The logarithm -/

/-- `log x` as a double-double `(hi, lo)`, from the bit pattern `ix` of `x`,
a subnormal `x` being given with its exponent below the normal range. -/
def logParts (ix : Nat) : Binary64 × Binary64 :=
  let tmp := wrap ((ix : Int) - logOffset)
  let i := tmp / Nat.pow 2 45 % 128
  let k : Int := signedOf tmp / Nat.pow 2 52
  let z := ofBits (wrap ((ix : Int) - (tmp / Nat.pow 2 52 * Nat.pow 2 52 : Nat)))
  let kd := round (k < 0) k.natAbs 1 0
  let (invc, logc, logctail) := logTable.getD i (0, 0, 0)
  let (invc, logc, logctail) := (ofBits invc, ofBits logc, ofBits logctail)
  let a := logCoefficient
  let r := fma z invc (neg one)
  let t1 := fma kd ln2hi logc
  let t2 := add t1 r
  let lo1 := fma kd ln2lo logctail
  let lo2 := add (sub t1 t2) r
  let ar := mul (a 0) r
  let ar2 := mul r ar
  let ar3 := mul r ar2
  let hi := add t2 ar2
  let lo3 := fma ar r (neg ar2)
  let lo4 := add (sub t2 hi) ar2
  let inner := fma ar2 (fma r (a 6) (a 5)) (fma r (a 4) (a 3))
  let poly := fma ar2 inner (fma r (a 2) (a 1))
  let lo := fma ar3 poly (add (add (add lo1 lo2) lo3) lo4)
  let y := add hi lo
  (y, add (sub hi y) lo)

/-! ## The exponential -/

/-- `scale * (1 + tmp)` for an argument from 512 on, where the bits `sbits`
of `scale` may have left the exponent range: `ki` carries the sign of the
argument in its bit 31. -/
def scaledResult (tmp : Binary64) (sbits ki : Nat) : Binary64 :=
  if ki / Nat.pow 2 31 % 2 == 0 then
    let scale := ofBits (wrap ((sbits : Int) - 1009 * Nat.pow 2 52))
    mul twoPow1009 (fma scale tmp scale)
  else
    let sbits := wrap ((sbits : Int) + 1022 * Nat.pow 2 52)
    let scale := ofBits sbits
    let t := mul scale tmp
    let y := add scale t
    let y :=
      if lt (abs y) one then
        let unit := if lt y (zero false) then neg one else one
        let lo := add (sub scale y) t
        let hi := add unit y
        let lo := add (add (sub unit hi) y) lo
        let y := sub (add hi lo) unit
        if isZero y then ofBits (sbits / Nat.pow 2 63 * Nat.pow 2 63) else y
      else y
    mul twoPowNeg1022 y

/-- `exp (x + xtail)` for a small correction `xtail`. -/
def expParts (x xtail : Binary64) : Binary64 :=
  let abstop := top12 x % 2048
  if abstop < 0x3C9 then add one x
  else if 0x409 ≤ abstop then (if signBit x then zero false else .inf false)
  else
    let shifted := fma invLn2N x roundingShift
    let ki := toBits shifted
    let kd := sub shifted roundingShift
    let r := fma kd negLn2loN (fma kd negLn2hiN x)
    let r := add r xtail
    let idx := 2 * (ki % 128)
    let top := ki * Nat.pow 2 45 % wordSize
    let tail := ofBits (expTable.getD idx 0)
    let sbits := (expTable.getD (idx + 1) 0 + top) % wordSize
    let c := expCoefficient
    let r2 := mul r r
    let tmp := fma r2 (fma r (c 1) (c 0)) (add tail r)
    let tmp := fma (mul r2 r2) (fma r (c 3) (c 2)) tmp
    if 0x408 ≤ abstop then scaledResult tmp sbits ki
    else
      let scale := ofBits sbits
      fma scale tmp scale

/-! ## The power -/

/-- `x ^ y` for a positive finite `x ≠ 1` and a finite `y ≠ 0`. -/
def tablePow (x y : Binary64) : Binary64 :=
  let ix := toBits x
  let topx := ix / Nat.pow 2 52
  let topy := toBits y / Nat.pow 2 52 % 2048
  if topy < 0x3BE then (if oneBits < ix then add one y else sub one y)
  else if 0x43E ≤ topy then
    if (oneBits < ix) == !(signBit y) then .inf false else zero false
  else
    let ix := if topx == 0 then wrap ((toBits (mul x twoPow52) : Int) - 52 * Nat.pow 2 52) else ix
    let (hi, lo) := logParts ix
    let ehi := mul y hi
    let elo := fma y lo (fma y hi (neg ehi))
    expParts ehi elo

end Binary64

end EmployeeGateway
