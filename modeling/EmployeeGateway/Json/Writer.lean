import EmployeeGateway.Json.Value
import EmployeeGateway.Decimal.Notation
import EmployeeGateway.Text.Unpaired
import EmployeeGateway.Text.Quoted

/-!
# Writing JSON text

`Json.write` writes a `Value` as compact JSON text: members and items joined
by commas with no white space, strings in double quotes with `\"`, `\\`, the
short escapes `\b \f \n \r \t` and `\u00XX` for the other control
characters, every other character as itself; integers in decimal; finite
floats in the standard notation (`2.0`, `1e+200`); NaN and the infinities as
`NaN`, `Infinity` and `-Infinity`.

`Json.writeAscii` writes the same document in printable ASCII only: every
code point from `7F` on becomes `\uXXXX` escapes with lowercase hex digits,
two of them (a surrogate pair) past `FFFF`, and an unpaired unit the escape
of its unit. Strings are written code point by code point (`Unpaired.points`).
`Json.hasUnpaired` tells whether a value holds an unpaired unit anywhere,
which no UTF-8 text can carry.

Messages show values the way the service's runtime displays them:
`Value.display` writes `None`, `True`, `False`, integers in decimal, floats
in the standard notation (`nan`, `inf`), strings as quoted literals (see
`Text.quote`), lists as `[a, b]` and objects as `{'k': v}`. `Value.text` is
the plain text of a value: a string is itself, anything else its display.
-/

namespace EmployeeGateway

namespace Json

/-- Four lowercase hex digits. -/
def hex4Text (n : Nat) : String :=
  let ds := Nat.toDigits 16 n
  String.ofList (List.replicate (4 - ds.length) '0' ++ ds)

/-- A code point from `7F` on as `\uXXXX` escapes; a unit is its own
escape. -/
def escapeWide (n : Nat) : String :=
  if n < 0x10000 then "\\u" ++ hex4Text n
  else
    let m := n - 0x10000
    "\\u" ++ hex4Text (0xD800 + m / 0x400) ++ "\\u" ++ hex4Text (0xDC00 + m % 0x400)

/-- One code point inside a JSON string; `ascii` asks for ASCII text only. -/
def escapePoint (ascii : Bool) (n : Nat) : String :=
  if ascii && 0x7F ≤ n then escapeWide n
  else if n == 0x22 then "\\\""
  else if n == 0x5C then "\\\\"
  else if n == 0x0A then "\\n"
  else if n == 0x0D then "\\r"
  else if n == 0x09 then "\\t"
  else if n == 8 then "\\b"
  else if n == 12 then "\\f"
  else if n < 0x20 then "\\u" ++ hex4Text n
  else String.ofList (Unpaired.chars n)

/-- A string as a JSON string literal. -/
def writeString (ascii : Bool) (s : String) : String :=
  "\"" ++ String.join ((Unpaired.points s.toList).map (escapePoint ascii)) ++ "\""

/-- A float as a JSON number or one of the non-finite words. -/
def writeFloat : Binary64 → String
  | .nan => "NaN"
  | .inf false => "Infinity"
  | .inf true => "-Infinity"
  | x => x.toText

mutual

/-- A value as compact JSON text; `ascii` asks for ASCII text only. -/
def writeAs (ascii : Bool) : Value → String
  | .null => "null"
  | .bool b => if b then "true" else "false"
  | .int i => toString i
  | .float x => writeFloat x
  | .str s => writeString ascii s
  | .arr xs => "[" ++ writeItems ascii xs ++ "]"
  | .obj ms => "\x7b" ++ writeMembers ascii ms ++ "\x7d"

/-- Items joined by commas. -/
def writeItems (ascii : Bool) : List Value → String
  | [] => ""
  | [x] => writeAs ascii x
  | x :: xs => writeAs ascii x ++ "," ++ writeItems ascii xs

/-- Members joined by commas. -/
def writeMembers (ascii : Bool) : List (String × Value) → String
  | [] => ""
  | [(k, v)] => writeString ascii k ++ ":" ++ writeAs ascii v
  | (k, v) :: ms => writeString ascii k ++ ":" ++ writeAs ascii v ++ "," ++ writeMembers ascii ms

end

/-- A value as compact JSON text. -/
def write (v : Value) : String := writeAs false v

mutual

/-- Does the value hold an unpaired unit, in a string or a key? -/
def hasUnpaired : Value → Bool
  | .str s => !Unpaired.encodable s
  | .arr xs => hasUnpairedItems xs
  | .obj ms => hasUnpairedMembers ms
  | _ => false

/-- Does an item hold an unpaired unit? -/
def hasUnpairedItems : List Value → Bool
  | [] => false
  | x :: xs => hasUnpaired x || hasUnpairedItems xs

/-- Does a member hold an unpaired unit, in its key or its value? -/
def hasUnpairedMembers : List (String × Value) → Bool
  | [] => false
  | (k, v) :: ms => !Unpaired.encodable k || hasUnpaired v || hasUnpairedMembers ms

end

/-- A value as compact JSON text in ASCII only. -/
def writeAscii (v : Value) : String := writeAs true v

end Json

/-! ## Values in messages -/

namespace Value

mutual

/-- A value as shown inside messages. -/
def display : Value → String
  | .null => "None"
  | .bool b => if b then "True" else "False"
  | .int i => toString i
  | .float x => x.toText
  | .str s => Text.quote s
  | .arr xs => "[" ++ displayItems xs ++ "]"
  | .obj ms => "\x7b" ++ displayMembers ms ++ "\x7d"

/-- Items shown and joined by a comma and a space. -/
def displayItems : List Value → String
  | [] => ""
  | [x] => display x
  | x :: xs => display x ++ ", " ++ displayItems xs

/-- Members shown as `'key': value` and joined by a comma and a space. -/
def displayMembers : List (String × Value) → String
  | [] => ""
  | [(k, v)] => Text.quote k ++ ": " ++ display v
  | (k, v) :: ms => Text.quote k ++ ": " ++ display v ++ ", " ++ displayMembers ms

end

/-- The plain text of a value: a string is itself. -/
def text : Value → String
  | .str s => s
  | v => display v

end Value

end EmployeeGateway
