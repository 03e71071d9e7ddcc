import EmployeeGateway.Json.Value
import EmployeeGateway.Decimal.Notation
import EmployeeGateway.Text.Unpaired

/-!
# Reading JSON text

`Json.read` reads a JSON document into a `Value`:

* white space is space, tab, line feed and carriage return;
* a number is `-?(0|[1-9][0-9]*)(\.[0-9]+)?([eE][-+]?[0-9]+)?`; without a
  fraction or an exponent it is an integer of any size (more than 4300 digits
  is refused with its own error), otherwise the correctly rounded float;
* `NaN`, `Infinity` and `-Infinity` are read as floats;
* a string may not hold a raw control character; `\uXXXX` escapes that form a
  surrogate pair are joined, and a lone surrogate unit is kept as a unit
  (written as `Unpaired.chars` writes it);
* an object keeps the first place of a repeated key and its last value;
* `Json.readNested` takes a number of arrays and objects that may be open at
  once; opening one more is refused with its own error, whatever follows.
  `Json.read` sets no such limit.

Each reading step returns the rest of the text, so steps compose by passing
the rest on; `fuel` bounds the steps and is set from the text's length, and
`room` is the number of arrays and objects that may still be opened.
-/

namespace EmployeeGateway

namespace Json

/-- Why a text is not a JSON document. -/
inductive ReadError where
  /-- The text does not follow the grammar. -/
  | malformed
  /-- An integer has more digits than may be converted. -/
  | tooManyDigits
  /-- Arrays and objects are nested deeper than allowed. -/
  | tooDeep
  deriving Repr, DecidableEq, Inhabited

/-- JSON white space. -/
def isSpace (c : Char) : Bool := c == ' ' || c == '\t' || c == '\n' || c == '\r'

/-- Drop leading white space. -/
def skipSpace (cs : List Char) : List Char := cs.dropWhile isSpace

/-- The value of a hex digit. -/
def hexValue? (c : Char) : Option Nat :=
  if c.isDigit then some (c.toNat - '0'.toNat)
  else if 'a' ≤ c && c ≤ 'f' then some (c.toNat - 'a'.toNat + 10)
  else if 'A' ≤ c && c ≤ 'F' then some (c.toNat - 'A'.toNat + 10)
  else none

/-- The value of four hex digits. -/
def hex4? (a b c d : Char) : Option Nat := do
  let a ← hexValue? a
  let b ← hexValue? b
  let c ← hexValue? c
  let d ← hexValue? d
  pure (((a * 16 + b) * 16 + c) * 16 + d)

/-- Decode the escape that follows a backslash: the characters that write the
code point it stands for, and the rest of the text. A high surrogate joins a
following low one. -/
def readEscape : List Char → Option (List Char × List Char)
  | '"' :: r => some (['"'], r)
  | '\\' :: r => some (['\\'], r)
  | '/' :: r => some (['/'], r)
  | 'b' :: r => some ([Char.ofNat 8], r)
  | 'f' :: r => some ([Char.ofNat 12], r)
  | 'n' :: r => some (['\n'], r)
  | 'r' :: r => some (['\r'], r)
  | 't' :: r => some (['\t'], r)
  | 'u' :: a :: b :: c :: d :: r =>
    match hex4? a b c d with
    | none => none
    | some n =>
      if 0xD800 ≤ n && n ≤ 0xDBFF then
        match r with
        | '\\' :: 'u' :: e :: f :: g :: h :: r' =>
          match hex4? e f g h with
          | some lo =>
            if 0xDC00 ≤ lo && lo ≤ 0xDFFF then
              some (Unpaired.chars (0x10000 + (n - 0xD800) * 0x400 + (lo - 0xDC00)), r')
            else some (Unpaired.chars n, r)
          | none => none
        | _ => some (Unpaired.chars n, r)
      else some (Unpaired.chars n, r)
  | _ => none

/-- Read the characters of a string after its opening quote, up to and
including the closing quote; `acc` holds the characters read, last first,
and `fuel` bounds the number of steps. -/
def readCharsFrom : Nat → List Char → List Char → Except ReadError (String × List Char)
  | 0, _, _ => .error .malformed
  | _, [], _ => .error .malformed
  | fuel + 1, c :: rest, acc =>
    if c == '"' then .ok (String.ofList acc.reverse, rest)
    else if c == '\\' then
      match readEscape rest with
      | some (chs, r) => readCharsFrom fuel r (chs.reverse ++ acc)
      | none => .error .malformed
    else if c.toNat < 0x20 then .error .malformed
    else readCharsFrom fuel rest (c :: acc)

/-- Read a string after its opening quote. -/
def readChars (cs : List Char) : Except ReadError (String × List Char) :=
  readCharsFrom (cs.length + 1) cs []

/-- The most digits an integer may be written with. -/
def intDigitLimit : Nat := 4300

/-- Read the optional fraction `.digits`; returns its digits and the rest. -/
def readFraction : List Char → List Char × List Char
  | '.' :: r =>
    let (ds, rest) := Decimal.scanDigits r
    if ds.isEmpty then ([], '.' :: r) else (ds, rest)
  | r => ([], r)

/-- Read the optional exponent `e±digits`; returns its value if present. -/
def readExponent : List Char → Option Int × List Char
  | c :: r =>
    if c == 'e' || c == 'E' then
      let (neg, r') := match r with
        | '-' :: r' => (true, r')
        | '+' :: r' => (false, r')
        | r' => (false, r')
      let (ds, rest) := Decimal.scanDigits r'
      if ds.isEmpty then (none, c :: r)
      else
        let n : Int := Decimal.digitsValue ds
        (some (if neg then -n else n), rest)
    else (none, c :: r)
  | [] => (none, [])

/-- Read a number. -/
def readNumber (cs : List Char) : Except ReadError (Value × List Char) :=
  let (neg, cs) := match cs with
    | '-' :: r => (true, r)
    | r => (false, r)
  let intPart : Option (List Char × List Char) :=
    match cs with
    | '0' :: r => some (['0'], r)
    | c :: _ => if c.isDigit then some (Decimal.scanDigits cs) else none
    | [] => none
  match intPart with
  | none => .error .malformed
  | some (whole, r) =>
    let (frac, r) := readFraction r
    let (exp, r) := readExponent r
    if frac.isEmpty && exp.isNone then
      if intDigitLimit < whole.length then .error .tooManyDigits
      else
        let n : Int := Decimal.digitsValue whole
        .ok (.int (if neg then -n else n), r)
    else
      let digits := Decimal.digitsValue (whole ++ frac)
      let e := exp.getD 0 - (frac.length : Int)
      .ok (.float (Binary64.ofDecimal neg digits e), r)

mutual

/-- Read one value at the start of the text (no leading white space). -/
def readValue : Nat → Nat → List Char → Except ReadError (Value × List Char)
  | 0, _, _ => .error .malformed
  | fuel + 1, room, cs =>
    match cs with
    | '{' :: r =>
      match room with
      | 0 => .error .tooDeep
      | room + 1 =>
        match skipSpace r with
        | '}' :: r' => .ok (.obj [], r')
        | r' => readMembers fuel room r' []
    | '[' :: r =>
      match room with
      | 0 => .error .tooDeep
      | room + 1 =>
        match skipSpace r with
        | ']' :: r' => .ok (.arr [], r')
        | r' => readItems fuel room r' []
    | '"' :: r => (readChars r).map fun p => (.str p.1, p.2)
    | 'n' :: 'u' :: 'l' :: 'l' :: r => .ok (.null, r)
    | 't' :: 'r' :: 'u' :: 'e' :: r => .ok (.bool true, r)
    | 'f' :: 'a' :: 'l' :: 's' :: 'e' :: r => .ok (.bool false, r)
    | 'N' :: 'a' :: 'N' :: r => .ok (.float .nan, r)
    | 'I' :: 'n' :: 'f' :: 'i' :: 'n' :: 'i' :: 't' :: 'y' :: r => .ok (.float (.inf false), r)
    | '-' :: 'I' :: 'n' :: 'f' :: 'i' :: 'n' :: 'i' :: 't' :: 'y' :: r => .ok (.float (.inf true), r)
    | _ => readNumber cs

/-- Read the items of an array after its opening bracket; `acc` holds the
items read, last first. -/
def readItems : Nat → Nat → List Char → List Value → Except ReadError (Value × List Char)
  | 0, _, _, _ => .error .malformed
  | fuel + 1, room, cs, acc =>
    match readValue fuel room cs with
    | .error e => .error e
    | .ok (v, r) =>
      match skipSpace r with
      | ',' :: r' => readItems fuel room (skipSpace r') (v :: acc)
      | ']' :: r' => .ok (.arr (v :: acc).reverse, r')
      | _ => .error .malformed

/-- Read the members of an object after its opening brace. -/
def readMembers : Nat → Nat → List Char → List (String × Value) →
    Except ReadError (Value × List Char)
  | 0, _, _, _ => .error .malformed
  | fuel + 1, room, cs, acc =>
    match cs with
    | '"' :: r =>
      match readChars r with
      | .error e => .error e
      | .ok (k, r) =>
        match skipSpace r with
        | ':' :: r' =>
          match readValue fuel room (skipSpace r') with
          | .error e => .error e
          | .ok (v, r'') =>
            let acc := Value.setMember acc k v
            match skipSpace r'' with
            | ',' :: r3 => readMembers fuel room (skipSpace r3) acc
            | '}' :: r3 => .ok (.obj acc, r3)
            | _ => .error .malformed
        | _ => .error .malformed
    | _ => .error .malformed

end

/-- Read a whole JSON document of characters, white space allowed around it,
with at most `room` arrays and objects open at once. -/
def readNestedChars (room : Nat) (cs : List Char) : Except ReadError Value :=
  let cs := skipSpace cs
  match readValue (2 * cs.length + 2) room cs with
  | .error e => .error e
  | .ok (v, r) => if (skipSpace r).isEmpty then .ok v else .error .malformed

/-- Read a whole JSON document with at most `room` arrays and objects open at
once. -/
def readNested (room : Nat) (s : String) : Except ReadError Value := readNestedChars room s.toList

/-- Read a whole JSON document; its nesting is never deeper than its length. -/
def read (s : String) : Except ReadError Value := readNested s.length s

end Json

end EmployeeGateway
