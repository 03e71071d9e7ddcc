import EmployeeGateway.Text.Unpaired

/-!
# UTF-8 bytes

`Utf8.encodePoint` gives the UTF-8 bytes of a code point, and `Utf8.decode`
reads bytes back into a written text (each code point written by
`Unpaired.chars`), replacing each ill-formed part by U+FFFD.

An ill-formed part is the longest prefix of an ill-formed sequence that could
still begin a well-formed one (the "maximal subpart" rule of Unicode): a lead
byte followed by the continuation bytes it allows, up to the first byte it
does not allow. That byte is read again as the start of what follows. A byte
that can begin no sequence (`80`–`C1`, `F5`–`FF`) is a part on its own.

The second byte of a sequence has a narrower range after some lead bytes, so
that no character has two encodings and no surrogate is encoded: after `E0`
it is `A0`–`BF`, after `ED` `80`–`9F`, after `F0` `90`–`BF`, after `F4`
`80`–`8F`, and otherwise `80`–`BF`.
-/

namespace EmployeeGateway

namespace Utf8

/-- The UTF-8 bytes of a code point. -/
def encodePoint (n : Nat) : List Nat :=
  if n < 0x80 then [n]
  else if n < 0x800 then [0xC0 + n / 0x40, 0x80 + n % 0x40]
  else if n < 0x10000 then [0xE0 + n / 0x1000, 0x80 + n / 0x40 % 0x40, 0x80 + n % 0x40]
  else [0xF0 + n / 0x40000, 0x80 + n / 0x1000 % 0x40, 0x80 + n / 0x40 % 0x40, 0x80 + n % 0x40]

/-- The replacement character U+FFFD. -/
def replacement : Char := Char.ofNat 0xFFFD

/-- Is the byte a continuation byte, `80`–`BF`? -/
def isContinuation (b : Nat) : Bool := 0x80 ≤ b && b ≤ 0xBF

/-- The range the second byte must lie in after a lead byte of a sequence of
three or four bytes. -/
def secondRange (lead : Nat) : Nat × Nat :=
  if lead == 0xE0 then (0xA0, 0xBF)
  else if lead == 0xED then (0x80, 0x9F)
  else if lead == 0xF0 then (0x90, 0xBF)
  else if lead == 0xF4 then (0x80, 0x8F)
  else (0x80, 0xBF)

/-- Does `b` lie in the range of second bytes after `lead`? -/
def allowsSecond (lead b : Nat) : Bool :=
  let r := secondRange lead
  r.1 ≤ b && b ≤ r.2

/-- The low six bits of a continuation byte. -/
def payload (b : Nat) : Nat := b % 0x40

/-- Read bytes as a written text, each ill-formed part becoming U+FFFD. -/
def decode : List Nat → List Char
  | [] => []
  | b :: bs =>
    if b < 0x80 then Unpaired.chars b ++ decode bs
    else if b < 0xC2 then replacement :: decode bs
    else if b < 0xE0 then
      match bs with
      | c :: cs =>
        if isContinuation c then Unpaired.chars ((b % 0x20) * 0x40 + payload c) ++ decode cs
        else replacement :: decode (c :: cs)
      | [] => [replacement]
    else if b < 0xF0 then
      match bs with
      | c :: cs =>
        if allowsSecond b c then
          match cs with
          | d :: ds =>
            if isContinuation d then
              Unpaired.chars ((b % 0x10) * 0x1000 + payload c * 0x40 + payload d) ++ decode ds
            else replacement :: decode (d :: ds)
          | [] => [replacement]
        else replacement :: decode (c :: cs)
      | [] => [replacement]
    else if b < 0xF5 then
      match bs with
      | c :: cs =>
        if allowsSecond b c then
          match cs with
          | d :: ds =>
            if isContinuation d then
              match ds with
              | e :: es =>
                if isContinuation e then
                  Unpaired.chars ((b % 0x08) * 0x40000 + payload c * 0x1000 + payload d * 0x40 + payload e)
                    ++ decode es
                else replacement :: decode (e :: es)
              | [] => [replacement]
            else replacement :: decode (d :: ds)
          | [] => [replacement]
        else replacement :: decode (c :: cs)
      | [] => [replacement]
    else replacement :: decode bs
termination_by bs => bs.length

end Utf8

end EmployeeGateway
