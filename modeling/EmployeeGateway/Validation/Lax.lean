import EmployeeGateway.Json.Value
import EmployeeGateway.Decimal.Notation
import EmployeeGateway.Validation.Report
import EmployeeGateway.Text.Blank
import EmployeeGateway.Text.Unpaired

/-!
# Lax conversion of field values

The field rules of the service's records accept more than the exact type:

* text: only a string (`string_type` otherwise);
* integer: an integer; a boolean as `0` or `1`; a float when finite
  (`finite_number`), without fraction (`int_from_float`) and strictly between
  `-2 ^ 63` and `2 ^ 63` (`int_parsing_size`); a string read by
  `Lax.intOfText`; nothing else (`int_type`);
* boolean: a boolean; the integers `0` and `1` (`bool_parsing` for other
  machine-size integers); a float that is an integer of machine size when it
  is `0` or `1` (`bool_parsing` for other such values); a word of
  `Lax.boolOfText`; nothing else (`bool_type`);
* float: a float; a string read by `Lax.floatOfText`; an integer or boolean
  converted to the nearest float (`float_type` when too large); nothing else.

Text is read as a number after trimming Unicode white space. Text holding an
unpaired unit is no text a number can be read from (`string_unicode`),
whatever the target type.
-/

namespace EmployeeGateway

namespace Lax

/-! ## Integers written as text -/

/-- The JSON grammar of an integer: an optional minus sign, then `0` or a
nonzero ASCII digit followed by ASCII digits. -/
def jsonIntText? (cs : List Char) : Option Int :=
  let (neg, ds) := match cs with
    | '-' :: r => (true, r)
    | r => (false, r)
  match ds with
  | [] => none
  | d :: rest =>
    if ds.all Char.isDigit && (d != '0' || rest.isEmpty) then
      let n : Int := Decimal.digitsValue ds
      some (if neg then -n else n)
    else none

/-- A leading sign and the text after it: a minus sign is kept, a plus sign
dropped. -/
def signSplit : List Char → List Char × List Char
  | '-' :: r => (['-'], r)
  | '+' :: r => ([], r)
  | r => ([], r)

/-- The text after a leading zero, read on from the last character skipped:
zeros and underscores are skipped, the rest is kept from the first other digit
or minus sign, a point keeps the last skipped character before it, and a text
of zeros and underscores alone keeps its last character. -/
def afterLeadingZeros (last : Char) : List Char → Option (List Char)
  | [] => some [last]
  | c :: rest =>
    if c == '0' || c == '_' then afterLeadingZeros c rest
    else if c == '-' || c.isDigit then some (c :: rest)
    else if c == '.' then some (last :: c :: rest)
    else none

/-- A text with its leading zeros and underscores skipped by
`afterLeadingZeros` when it starts with a zero, else as it is. -/
def leadingZerosSkipped? : List Char → Option (List Char)
  | '0' :: rest => afterLeadingZeros '0' rest
  | cs => some cs

/-- Remove underscores that only separate: none at either end and no two in
a row, else `none`. -/
def separatorsRemoved? (cs : List Char) : Option (List Char) :=
  match cs.head?, cs.getLast? with
  | some '_', _ => none
  | _, some '_' => none
  | _, _ =>
    if (cs.zip cs.tail).any (fun p => p.1 == '_' && p.2 == '_') then none
    else some (cs.filter (· != '_'))

/-- One attempt at an integer: the sign is split off, the rest has its
leading zeros skipped and its separators removed, and the sign and what is
left must then follow the JSON grammar of an integer. So a minus sign may also
stand after the leading zeros (`0-6` is `-6`), but not twice, and no zero may
lead the digits after it (`0-01` is no integer). -/
def intAttempt? (cs : List Char) : Option Int :=
  let (sign, rest) := signSplit cs
  ((leadingZerosSkipped? rest).bind separatorsRemoved?).bind fun ds => jsonIntText? (sign ++ ds)

/-- The text before a point followed by one or more zeros and nothing else. -/
def decimalZerosStripped? (cs : List Char) : Option (List Char) :=
  match cs.findIdx? (· == '.') with
  | some i =>
    let fraction := cs.drop (i + 1)
    if !fraction.isEmpty && fraction.all (· == '0') then some (cs.take i) else none
  | none => none

/-- The most significant digits an integer read from text may have. -/
def intDigitLimit : Nat := 4300

/-- Read an integer from text: trimmed of white space, by `intAttempt?`, or
else by `intAttempt?` on the text with a point and its trailing zeros
removed. An integer of more than `intDigitLimit` digits is too large. -/
def intOfText (s : String) : Except ViolationKind Int :=
  let cs := (Text.trim s).toList
  let read := match intAttempt? cs with
    | some n => some n
    | none => (decimalZerosStripped? cs).bind intAttempt?
  match read with
  | none => .error .intParsing
  | some n => if Nat.pow 10 intDigitLimit ≤ n.natAbs then .error .intParsingSize else .ok n

/-! ## Floats written as text -/

/-- An optional sign. -/
def signOf : List Char → Bool × List Char
  | '-' :: r => (true, r)
  | '+' :: r => (false, r)
  | r => (false, r)

/-- The float grammar: an optional sign, then `inf`, `infinity` or `nan` in
any case, or digits with an optional point (at least one digit in all) and an
optional exponent `e`/`E` with optional sign and at least one digit. -/
def floatText? (cs : List Char) : Option Binary64 :=
  let (neg, cs) := signOf cs
  let word := String.ofList (cs.map Char.toLower)
  if word == "inf" || word == "infinity" then some (.inf neg)
  else if word == "nan" then some .nan
  else
    let (whole, r) := Decimal.scanDigits cs
    let (frac, r) := match r with
      | '.' :: r' => Decimal.scanDigits r'
      | r' => ([], r')
    if whole.isEmpty && frac.isEmpty then none
    else
      let exp? : Option Int := match r with
        | [] => some 0
        | c :: r' =>
          if c == 'e' || c == 'E' then
            let (eneg, r'') := signOf r'
            if !r''.isEmpty && r''.all Char.isDigit then
              let n : Int := Decimal.digitsValue r''
              some (if eneg then -n else n)
            else none
          else none
      exp?.map fun e =>
        Binary64.ofDecimal neg (Decimal.digitsValue (whole ++ frac)) (e - (frac.length : Int))

/-- Read a float from text: trimmed, or else with separators removed. -/
def floatOfText (s : String) : Except ViolationKind Binary64 :=
  match floatText? (Text.trim s).toList with
  | some x => .ok x
  | none =>
    match (separatorsRemoved? s.toList).bind floatText? with
    | some x => .ok x
    | none => .error .floatParsing

/-! ## Booleans written as text -/

/-- The words read as booleans: `0`, `1`, and in any ASCII case `f`, `n`,
`no`, `off`, `false`, `t`, `y`, `on`, `yes`, `true`. -/
def boolOfText (s : String) : Except ViolationKind Bool :=
  let w := String.ofList (s.toList.map Char.toLower)
  if s == "0" || w == "f" || w == "n" || w == "no" || w == "off" || w == "false" then .ok false
  else if s == "1" || w == "t" || w == "y" || w == "on" || w == "yes" || w == "true" then .ok true
  else .error .boolParsing

/-! ## Field values -/

/-- Text. -/
def text : Value → Except ViolationKind String
  | .str s => .ok s
  | _ => .error .stringType

/-- `2 ^ 63`, the bound of machine-size integers. -/
def machineBound : Int := Nat.pow 2 63

/-- The integer of a float. -/
def intOfFloat (x : Binary64) : Except ViolationKind Int :=
  if !x.isFinite then .error .finiteNumber
  else
    match x.toInt? with
    | none => .error .intFromFloat
    | some n => if -machineBound < n && n < machineBound then .ok n else .error .intParsingSize

/-- An integer. -/
def int : Value → Except ViolationKind Int
  | .int i => .ok i
  | .bool b => .ok (if b then 1 else 0)
  | .float x => intOfFloat x
  | .str s => if Unpaired.encodable s then intOfText s else .error .stringUnicode
  | _ => .error .intType

/-- A boolean. -/
def bool : Value → Except ViolationKind Bool
  | .bool b => .ok b
  | .str s => if Unpaired.encodable s then boolOfText s else .error .stringUnicode
  | .int i =>
    if -machineBound ≤ i && i < machineBound then
      if i == 0 then .ok false else if i == 1 then .ok true else .error .boolParsing
    else .error .boolType
  | .float x =>
    match intOfFloat x with
    | .ok 0 => .ok false
    | .ok 1 => .ok true
    | .ok _ => .error .boolParsing
    | .error _ => .error .boolType
  | _ => .error .boolType

/-- A float. -/
def float : Value → Except ViolationKind Binary64
  | .float x => .ok x
  | .str s => if Unpaired.encodable s then floatOfText s else .error .stringUnicode
  | .int i => match Binary64.ofInt? i with
    | some x => .ok x
    | none => .error .floatType
  | .bool b => .ok (if b then Binary64.one else Binary64.zero false)
  | _ => .error .floatType

end Lax

end EmployeeGateway
