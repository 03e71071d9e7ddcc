import EmployeeGateway.Decimal.Shortest

/-!
# Binary64 values as decimal text

The text of a binary64 value is its shortest round-trip digits placed by one
notation record. `Notation.standard` is the notation of the service's
answers: positional when the decimal point falls within sixteen places left
of the first digit and four places right of it, exponent form otherwise; a
point and a zero are written for whole numbers; the exponent carries its sign
and at least two digits; the zero of negative sign keeps its minus.

Reading goes the other way: `Binary64.ofDecimal neg digits exp` is the
binary64 value nearest to `±digits * 10 ^ exp`, ties to even, as every
correctly rounding reader gives. Decimals whose magnitude is surely beyond
the finite range, or surely below half the least subnormal, are settled from
their digit count alone, so a huge written exponent costs nothing.
`Decimal.scanDigits` splits off a run of ASCII digits, the building block of
the number grammars that read with it.
-/

namespace EmployeeGateway

/-- The choices a decimal notation makes around the shortest digits. -/
structure Notation where
  /-- Positional when `lowestPoint < point ≤ highestPoint`, where `point` is
  the place of the decimal point counted from the left of the first digit. -/
  lowestPoint : Int
  highestPoint : Int
  /-- Mark between significand and exponent. -/
  exponentMark : String
  /-- Least number of exponent digits. -/
  exponentWidth : Nat
  /-- Write `+` before a nonnegative exponent. -/
  exponentPlus : Bool
  /-- Spellings of the non-finite values. -/
  nanText : String
  infText : String
  deriving Repr, Inhabited

namespace Notation

/-- Positional for decimal points from four places right of the first digit to
sixteen places left of it; `1e+16`, `1e-05`, `nan`, `inf`. -/
def standard : Notation :=
  ⟨-4, 16, "e", 2, true, "nan", "inf"⟩

/-- Left-pad a digit string with zeros to `width`. -/
def padDigits (width : Nat) (s : String) : String :=
  String.ofList (List.replicate (width - s.length) '0') ++ s

/-- The digits of a positive decimal placed in the notation. -/
def placeDigits (n : Notation) (d : Decimal) : String :=
  let ds := toString d.digits
  let len := ds.length
  let point : Int := (len : Int) + d.exponent
  if n.lowestPoint < point && point ≤ n.highestPoint then
    if point ≤ 0 then
      "0." ++ String.ofList (List.replicate (-point).toNat '0') ++ ds
    else if len ≤ point.toNat then
      ds ++ String.ofList (List.replicate (point.toNat - len) '0') ++ ".0"
    else
      String.ofList (ds.toList.take point.toNat) ++ "." ++ String.ofList (ds.toList.drop point.toNat)
  else
    let head := String.ofList (ds.toList.take 1)
    let tail := String.ofList (ds.toList.drop 1)
    let mantissa := if tail.isEmpty then head else head ++ "." ++ tail
    let x := point - 1
    let sign := if x < 0 then "-" else if n.exponentPlus then "+" else ""
    mantissa ++ n.exponentMark ++ sign ++ padDigits n.exponentWidth (toString x.natAbs)

/-- The text of a binary64 value in the notation. -/
def write (n : Notation) : Binary64 → String
  | .nan => n.nanText
  | .inf s => (if s then "-" else "") ++ n.infText
  | .finite s m e =>
    let sign := if s then "-" else ""
    if m = 0 then sign ++ "0.0"
    else sign ++ placeDigits n (Binary64.shortestOf m e)

end Notation

/-- The standard text of a binary64 value, as in `2.0`, `0.1`, `1e+200`,
`-0.0`, `nan`. -/
def Binary64.toText (x : Binary64) : String := Notation.standard.write x

/-! ## Reading decimals -/

namespace Binary64

/-- The binary64 value nearest to `(-1) ^ negative * digits * 10 ^ exp`. -/
def ofDecimal (negative : Bool) (digits : Nat) (exp : Int) : Binary64 :=
  if digits = 0 then zero negative
  else
    let count : Int := (Nat.toDigits 10 digits).length
    if 310 < count - 1 + exp then .inf negative
    else if count + exp < -325 then zero negative
    else if 0 ≤ exp then round negative (digits * Nat.pow 10 exp.toNat) 1 0
    else round negative digits (Nat.pow 10 (-exp).toNat) 0

end Binary64

namespace Decimal

/-- Split a list of characters into its leading ASCII digits and the rest. -/
def scanDigits (cs : List Char) : List Char × List Char :=
  (cs.takeWhile Char.isDigit, cs.dropWhile Char.isDigit)

/-- The number written by ASCII digits. -/
def digitsValue (ds : List Char) : Nat :=
  ds.foldl (fun acc c => acc * 10 + (c.toNat - '0'.toNat)) 0

end Decimal

end EmployeeGateway
