import EmployeeGateway.Text.HiddenTable
import EmployeeGateway.Text.Lower
import EmployeeGateway.Text.Unpaired

/-!
# Quoted text

`Text.quote` writes a string as a quoted literal: in single quotes, or in
double quotes when the text holds a single quote and no double quote. The
chosen quote and the backslash are escaped by a backslash; tab, line feed and
carriage return are written `\t`, `\n`, `\r`; other ASCII control characters
and every hidden code point (see `Text.hiddenRanges`) are written as `\xhh`,
`\uhhhh` or `\Uhhhhhhhh` with lowercase hex digits, an unpaired unit as
`\uhhhh`; everything else stands for itself. The literal is written code
point by code point (`Unpaired.points`).
-/

namespace EmployeeGateway.Text

/-- Lowercase hex digits of `n`, left-padded with zeros to `width`. -/
def hexDigits (width n : Nat) : String :=
  let ds := Nat.toDigits 16 n
  String.ofList (List.replicate (width - ds.length) '0' ++ ds)

/-- Is the code point written as an escape? Every unit is. -/
def isHidden (n : Nat) : Bool :=
  if n < 0x7F then n < 0x20
  else if n == 0x7F then true
  else Unpaired.isUnit n || inRanges hiddenRanges n

/-- One code point inside a literal quoted by `q`. -/
def quotePoint (q : Char) (n : Nat) : String :=
  if n == q.toNat || n == 0x5C then String.ofList ['\\', Char.ofNat n]
  else if n == 0x09 then "\\t"
  else if n == 0x0A then "\\n"
  else if n == 0x0D then "\\r"
  else if isHidden n then
    if n ≤ 0xFF then "\\x" ++ hexDigits 2 n
    else if n ≤ 0xFFFF then "\\u" ++ hexDigits 4 n
    else "\\U" ++ hexDigits 8 n
  else String.ofList (Unpaired.chars n)

/-- The quote a literal of `s` uses. -/
def quoteFor (s : String) : Char :=
  if s.contains '\'' && !s.contains '"' then '"' else '\''

/-- The quoted literal of a string. -/
def quote (s : String) : String :=
  let q := quoteFor s
  String.singleton q ++ String.join ((Unpaired.points s.toList).map (quotePoint q)) ++
    String.singleton q

end EmployeeGateway.Text
