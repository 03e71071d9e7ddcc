import EmployeeGateway.Text.Utf8
import EmployeeGateway.Text.Unpaired
import EmployeeGateway.Text.Quoted

/-!
# Encoding text as bytes and reading code units

Encoding is strict and goes code point by code point (`Unpaired.points`):
`Codec.utf8Bytes` refuses a text holding an unpaired unit, and
`Codec.asciiBytes` one holding any code point outside ASCII. The refusal
(`EncodeFailure`) names the first run of code points that cannot be encoded:
it starts at the first such code point and takes every such code point that
follows it directly.

Reading is where unpaired units come from; each code point read is written by
`Unpaired.chars`. `Codec.utf16Chars` reads code units of two bytes, joining a
high surrogate unit with a low one after it and keeping any other surrogate
unit; `Codec.utf32Chars` reads code units of four bytes, keeping surrogate
units and refusing values past `10FFFF`. `Codec.utf8Chars` reads well-formed
UTF-8, where the three-byte form of a surrogate unit gives that unit. Bytes
that do not make whole code units are refused.
-/

namespace EmployeeGateway

/-- A text that an encoding cannot encode: the encoding's name, the text's
code points, the run of positions `[start, stop)` it stops at, and why. -/
structure EncodeFailure where
  codec : String
  text : List Nat
  start : Nat
  stop : Nat
  reason : String
  deriving Repr, Inhabited

namespace EncodeFailure

/-- One code point as the message shows it: a hex escape with lowercase
digits. -/
def pointEscape (n : Nat) : String :=
  if n ≤ 0xFF then "\\x" ++ Text.hexDigits 2 n
  else if n ≤ 0xFFFF then "\\u" ++ Text.hexDigits 4 n
  else "\\U" ++ Text.hexDigits 8 n

/-- The message of the failure. -/
def message (f : EncodeFailure) : String :=
  let front := "'" ++ f.codec ++ "' codec can't encode "
  if f.stop == f.start + 1 then
    front ++ "character '" ++ pointEscape (f.text.getD f.start 0x20) ++ "' in position " ++
      toString f.start ++ ": " ++ f.reason
  else
    front ++ "characters in position " ++ toString f.start ++ "-" ++ toString (f.stop - 1) ++
      ": " ++ f.reason

end EncodeFailure

namespace Codec

/-- Encode a text code point by code point, refusing the first run of code
points for which `bad` holds. -/
def encodeWith (codec reason : String) (bad : Nat → Bool) (bytes : Nat → List Nat)
    (s : String) : Except EncodeFailure (List Nat) :=
  let ns := Unpaired.points s.toList
  let good := ns.takeWhile fun n => !bad n
  match ns.drop good.length with
  | [] => .ok (ns.flatMap bytes)
  | rest =>
    let run := rest.takeWhile bad
    .error ⟨codec, ns, good.length, good.length + run.length, reason⟩

/-- The UTF-8 bytes of a text without unpaired units. -/
def utf8Bytes (s : String) : Except EncodeFailure (List Nat) :=
  encodeWith "utf-8" "surrogates not allowed" Unpaired.isUnit Utf8.encodePoint s

/-- The bytes of an ASCII text. -/
def asciiBytes (s : String) : Except EncodeFailure (List Nat) :=
  encodeWith "ascii" "ordinal not in range(128)" (fun n => 0x80 ≤ n) (fun n => [n]) s

/-- Is the unit a high surrogate? -/
def isHigh (u : Nat) : Bool := 0xD800 ≤ u && u ≤ 0xDBFF

/-- Is the unit a low surrogate? -/
def isLow (u : Nat) : Bool := 0xDC00 ≤ u && u ≤ 0xDFFF

/-- The written text of UTF-16 code units: pairs joined, other surrogates
kept. -/
def unitsChars : List Nat → List Char
  | [] => []
  | u :: rest =>
    if isHigh u then
      match rest with
      | v :: rest' =>
        if isLow v then
          Unpaired.chars (0x10000 + (u - 0xD800) * 0x400 + (v - 0xDC00)) ++ unitsChars rest'
        else Unpaired.chars u ++ unitsChars (v :: rest')
      | [] => Unpaired.chars u
    else Unpaired.chars u ++ unitsChars rest
termination_by us => us.length

/-- Group bytes into code units of two bytes, in either byte order. -/
def units16 (bigEndian : Bool) : List Nat → Option (List Nat)
  | [] => some []
  | a :: b :: rest =>
    (units16 bigEndian rest).map ((if bigEndian then a * 256 + b else b * 256 + a) :: ·)
  | [_] => none

/-- Group bytes into code units of four bytes, in either byte order. -/
def units32 (bigEndian : Bool) : List Nat → Option (List Nat)
  | [] => some []
  | a :: b :: c :: d :: rest =>
    let u := if bigEndian then ((a * 256 + b) * 256 + c) * 256 + d else ((d * 256 + c) * 256 + b) * 256 + a
    (units32 bigEndian rest).map (u :: ·)
  | _ => none

/-- Read UTF-16 bytes. -/
def utf16Chars (bigEndian : Bool) (bs : List Nat) : Option (List Char) :=
  (units16 bigEndian bs).map unitsChars

/-- Read UTF-32 bytes. -/
def utf32Chars (bigEndian : Bool) (bs : List Nat) : Option (List Char) :=
  (units32 bigEndian bs).bind fun us =>
    if us.all (· ≤ 0x10FFFF) then some (Unpaired.ofPoints us) else none

/-- Read well-formed UTF-8 bytes; the three-byte form of a surrogate unit
gives that unit. -/
def utf8Chars : List Nat → Option (List Char)
  | [] => some []
  | b :: bs =>
    if b < 0x80 then (utf8Chars bs).map (Unpaired.chars b ++ ·)
    else if b < 0xC2 then none
    else if b < 0xE0 then
      match bs with
      | c :: cs =>
        if Utf8.isContinuation c then
          (utf8Chars cs).map (Unpaired.chars ((b % 0x20) * 0x40 + Utf8.payload c) ++ ·)
        else none
      | [] => none
    else if b < 0xF0 then
      match bs with
      | c :: d :: ds =>
        let n := (b % 0x10) * 0x1000 + Utf8.payload c * 0x40 + Utf8.payload d
        let surrogate := b == 0xED && 0xA0 ≤ c && c ≤ 0xBF
        if (Utf8.allowsSecond b c || surrogate) && Utf8.isContinuation d then
          (utf8Chars ds).map (Unpaired.chars n ++ ·)
        else none
      | _ => none
    else if b < 0xF5 then
      match bs with
      | c :: d :: e :: es =>
        if Utf8.allowsSecond b c && Utf8.isContinuation d && Utf8.isContinuation e then
          let n := (b % 0x08) * 0x40000 + Utf8.payload c * 0x1000 + Utf8.payload d * 0x40 + Utf8.payload e
          (utf8Chars es).map (Unpaired.chars n ++ ·)
        else none
      | _ => none
    else none
termination_by bs => bs.length

end Codec

end EmployeeGateway
