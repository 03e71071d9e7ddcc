import EmployeeGateway.Text.Lower
import EmployeeGateway.Text.Normal
import EmployeeGateway.Http.HostNameTable
import EmployeeGateway.Text.Unpaired

/-!
# Internationalized host names

A host name holding characters outside ASCII travels as ASCII: each label
that is not ASCII becomes `xn--` followed by its Punycode form (RFC 3492).

`Punycode.encode` writes the ASCII characters of a label in order, then a
`-` if there were any, then for each other code point, in increasing order of
code point and then of position, the distance to its insertion as a number in
a variable base whose thresholds adapt to the distances seen so far.

`Punycode.decode` reads such a form back: the ASCII characters before the
last `-`, then the numbers after it, each giving the code point to insert and
where; it fails on a character that is no digit, a number cut short, or a
code point past `10FFFF`.

`HostName.encode` gives the ASCII form of a name (IDNA 2008): it lowercases
the name, splits it at the four full stops (`.`, `。`, `．`, `｡`), drops one
empty last label (keeping the final dot) and encodes each label. An ASCII
label stays as it is, and one starting with `xn--` must decode to a valid
label that encodes back to the same text (so `xn---bbk`, whose `-` stands
where no ASCII part precedes it, is refused); any other label becomes `xn--` and its Punycode form. A label is valid
(`HostName.validLabel`) when it is not empty, is in normalization form C, does
not start or end with `-` nor have `--` in its third and fourth places, does
not start with a mark, holds only valid code points or contextual ones in
their context, and keeps the bidirectional rule. The name fails when it is
empty or longer than 254 characters, a label fails or is longer than 63
characters encoded, or the encoded name is longer than 253 (254 with the
final dot).
-/

namespace EmployeeGateway

namespace Punycode

/-- The character of a digit: `a` to `z` for 0 to 25, `0` to `9` for 26 to 35. -/
def digitChar (d : Nat) : Char :=
  if d < 26 then Char.ofNat (0x61 + d) else Char.ofNat (0x30 + d - 26)

/-- The threshold of the `j`-th digit under a bias: between 1 and 26. -/
def threshold (j bias : Nat) : Nat :=
  if 36 * (j + 1) ≤ bias then 1 else if bias + 26 ≤ 36 * (j + 1) then 26 else 36 * (j + 1) - bias

theorem threshold_pos (j bias : Nat) : 1 ≤ threshold j bias := by
  unfold threshold
  split
  · omega
  · split <;> omega

/-- The digits of a number under a bias, from the `j`-th digit on. -/
def numberDigits (q bias j : Nat) : List Char :=
  if q < threshold j bias then [digitChar q]
  else
    let t := threshold j bias
    digitChar (t + (q - t) % (36 - t)) ::
      numberDigits ((q - threshold j bias) / (36 - threshold j bias)) bias (j + 1)
termination_by q
decreasing_by
  have h1 := threshold_pos j bias
  have : (q - threshold j bias) / (36 - threshold j bias) ≤ q - threshold j bias :=
    Nat.div_le_self _ _
  omega

/-- Divide by 35 while above 455, counting 36 for each division. -/
def adaptLoop (delta k : Nat) : Nat × Nat :=
  if 455 < delta then adaptLoop (delta / 35) (k + 36) else (delta, k)
termination_by delta
decreasing_by omega

/-- The bias after a distance, when `count` code points are placed. -/
def adapt (delta count : Nat) (first : Bool) : Nat :=
  let d := if first then delta / 700 else delta / 2
  let d := d + d / count
  let (d, k) := adaptLoop d 0
  k + 36 * d / (d + 38)

/-- Encode the places of the code point `n` in `input`: the distance grows
by one for each smaller code point passed, and is written and restarted at
each occurrence. `placed` counts the code points placed so far and `basic`
the ASCII ones. -/
def encodePoint (basic n : Nat) : List Nat → Nat → Nat → Nat → List Char →
    List Char × Nat × Nat × Nat
  | [], delta, bias, placed, out => (out, delta, bias, placed)
  | c :: cs, delta, bias, placed, out =>
    if c < n then encodePoint basic n cs (delta + 1) bias placed out
    else if c == n then
      encodePoint basic n cs 0 (adapt delta (placed + 1) (placed == basic)) (placed + 1)
        (out ++ numberDigits delta bias 0)
    else encodePoint basic n cs delta bias placed out

/-- Encode the code points `points` (increasing, none ASCII) in turn, the
last one encoded being `n - 1`. -/
def encodePoints (input : List Nat) (basic : Nat) : List Nat → Nat → Nat → Nat → Nat → List Char →
    List Char
  | [], _, _, _, _, out => out
  | m :: ms, n, delta, bias, placed, out =>
    let (out, delta, bias, placed) := encodePoint basic m input (delta + (m - n) * (placed + 1)) bias placed out
    encodePoints input basic ms (m + 1) (delta + 1) bias placed out

/-- The Punycode form of a label. -/
def encode (label : List Char) : List Char :=
  let input := label.map Char.toNat
  let basic := label.filter (·.toNat < 0x80)
  let points := ((input.filter (0x80 ≤ ·)).eraseDups).mergeSort (· ≤ ·)
  let head := if basic.isEmpty then [] else basic ++ ['-']
  encodePoints input basic.length points 0x80 0 72 basic.length head

/-- The value of a digit, either case. -/
def digitValue? (c : Char) : Option Nat :=
  if 'a' ≤ c && c ≤ 'z' then some (c.toNat - 0x61)
  else if 'A' ≤ c && c ≤ 'Z' then some (c.toNat - 0x41)
  else if '0' ≤ c && c ≤ '9' then some (c.toNat - 0x30 + 26)
  else none

/-- Read one number under a bias from its `j`-th digit on, with weight `w`
and the value `acc` read so far; gives the number and the rest. -/
def decodeNumber (bias : Nat) : List Char → Nat → Nat → Nat → Option (Nat × List Char)
  | [], _, _, _ => none
  | c :: rest, j, w, acc =>
    match digitValue? c with
    | none => none
    | some d =>
      let t := threshold j bias
      if d < t then some (acc + d * w, rest)
      else decodeNumber bias rest (j + 1) (w * (36 - t)) (acc + d * w)

/-- Insert the code points the numbers give: each number moves the place of
insertion on from `pos` (past the last insertion), wrapping into the next
code point; `fuel` is at least the number of numbers left. -/
def insertAll : Nat → List Char → List Nat → Nat → Nat → Nat → Bool → Option (List Nat)
  | 0, _, out, _, _, _, _ => some out
  | _ + 1, [], out, _, _, _, _ => some out
  | fuel + 1, ext, out, n, pos, bias, first =>
    match decodeNumber bias ext 0 1 0 with
    | none => none
    | some (delta, rest) =>
      let i := pos + delta
      let n := n + i / (out.length + 1)
      if 0x10FFFF < n then none
      else
        let i := i % (out.length + 1)
        let out := out.take i ++ n :: out.drop i
        insertAll fuel rest out n (i + 1) (adapt delta out.length first) false

/-- The code points a Punycode form stands for. -/
def decode (text : List Char) : Option (List Nat) :=
  let back := text.reverse
  let (basic, ext) := match back.dropWhile (· != '-') with
    | [] => ([], text)
    | _ :: before => (before.reverse, (back.takeWhile (· != '-')).reverse)
  insertAll ext.length ext (basic.map Char.toNat) 0x80 0 72 true

end Punycode

namespace HostName

/-- The entry of the run holding a code point, if any. -/
def findRange {α : Type} (table : List (Nat × Nat × α)) (c : Nat) : Option α :=
  (table.find? fun r => r.1 ≤ c && c ≤ r.2.1).map (·.2.2)

/-- The bidirectional class of a code point of a valid label. -/
def direction (c : Nat) : Direction := (findRange directionRanges c).getD .left

/-- Is the code point a mark? -/
def isMark (c : Nat) : Bool := Text.inRanges markRanges c

/-- Is the character one of the four full stops that end a label? -/
def isStop (c : Char) : Bool :=
  c == '.' || c.toNat == 0x3002 || c.toNat == 0xFF0E || c.toNat == 0xFF61

/-- Are the hyphens of a label where they may be? -/
def hyphensOk (label : List Nat) : Bool :=
  (label.drop 2).take 2 != [0x2D, 0x2D] && label.head? != some 0x2D && label.getLast? != some 0x2D

/-- Does the first code point that is not transparent have one of the
joining types `kinds`? -/
def joinsWith (kinds : List Joining) : List Nat → Bool
  | [] => false
  | c :: cs =>
    match findRange joiningRanges c with
    | some .transparent => joinsWith kinds cs
    | some k => kinds.contains k
    | none => false

/-- May a joiner stand between `before` (nearest first) and `after`? Both
may follow a virama; the non-joiner also between a letter joining to the
right and one joining to the left, transparent letters skipped. -/
def joinerOk (c : Nat) (before after : List Nat) : Bool :=
  let afterVirama := match before with
    | b :: _ => Text.combiningClass b == 9
    | [] => false
  if c == 0x200D then afterVirama
  else afterVirama || (joinsWith [.leftJoining, .dual] before && joinsWith [.rightJoining, .dual] after)

/-- Is the code point of one of the scripts? -/
def inScripts (scripts : List Script) (c : Nat) : Bool :=
  match findRange scriptRanges c with
  | some s => scripts.contains s
  | none => false

/-- May a contextual code point stand between `before` (nearest first) and
`after` in `label`? -/
def contextOk (label : List Nat) (c : Nat) (before after : List Nat) : Bool :=
  if c == 0xB7 then before.head? == some 0x6C && after.head? == some 0x6C
  else if c == 0x375 then (after.head?.map (inScripts [.greek])).getD false
  else if c == 0x5F3 || c == 0x5F4 then (before.head?.map (inScripts [.hebrew])).getD false
  else if c == 0x30FB then label.any fun d => d != 0x30FB && inScripts [.kana, .han] d
  else if 0x660 ≤ c && c ≤ 0x669 then !label.any fun d => 0x6F0 ≤ d && d ≤ 0x6F9
  else if 0x6F0 ≤ c && c ≤ 0x6F9 then !label.any fun d => 0x660 ≤ d && d ≤ 0x669
  else false

/-- Is a code point contextual, allowed only in some surroundings? -/
def isContextual (c : Nat) : Bool :=
  c == 0xB7 || c == 0x375 || c == 0x5F3 || c == 0x5F4 || c == 0x30FB ||
    (0x660 ≤ c && c ≤ 0x669) || (0x6F0 ≤ c && c ≤ 0x6F9)

/-- May each code point stand where it is? `before` holds the code points
passed, nearest first. -/
def pointsOk (label : List Nat) : List Nat → List Nat → Bool
  | _, [] => true
  | before, c :: after =>
    let here :=
      if Text.inRanges validRanges c then true
      else if c == 0x200C || c == 0x200D then joinerOk c before after
      else if isContextual c then contextOk label c before after
      else false
    here && pointsOk label (c :: before) after

/-- Is the last class that is not a nonspacing mark one of `ends`? -/
def endsWith (ends : List Direction) (ds : List Direction) : Bool :=
  match ds.reverse.dropWhile (· == .nonspacingMark) with
  | d :: _ => ends.contains d
  | [] => false

/-- The bidirectional rule: a label holding a right-to-left character or an
Arabic number starts right-to-left or left-to-right, holds only the classes
its direction allows, ends (nonspacing marks aside) with a class its
direction allows, and, right-to-left, does not mix the two kinds of numbers. -/
def bidiOk (label : List Nat) : Bool :=
  let ds := label.map direction
  if !ds.any fun d => d == .right || d == .arabic || d == .arabicNumber then true
  else
    match ds.head? with
    | some .right | some .arabic =>
      ds.all (· != .left) && endsWith [.right, .arabic, .europeanNumber, .arabicNumber] ds &&
        !(ds.contains .arabicNumber && ds.contains .europeanNumber)
    | some .left =>
      ds.all (fun d => d != .right && d != .arabic && d != .arabicNumber) &&
        endsWith [.left, .europeanNumber] ds
    | _ => false

/-- Is the label a valid label? -/
def validLabel (label : List Nat) : Bool :=
  !label.isEmpty && label.length ≤ 254 && Text.isNfc label && hyphensOk label &&
    !(label.head?.map isMark).getD false && pointsOk label [] label && bidiOk label

/-- The ASCII form of one label, if it is a valid label. -/
def encodeLabel (label : List Char) : Option (List Char) :=
  let points := Unpaired.points label
  let out :=
    if label.all (·.toNat < 0x80) then
      let valid :=
        match label with
        | 'x' :: 'n' :: '-' :: '-' :: rest =>
          !rest.isEmpty && rest.getLast? != some '-' &&
            match Punycode.decode rest with
            | some points => validLabel points && Punycode.encode (points.map Char.ofNat) == rest
            | none => false
        | _ => validLabel points
      if valid then some label else none
    else if validLabel points then some ("xn--".toList ++ Punycode.encode label)
    else none
  out.bind fun o => if o.length ≤ 63 then some o else none

/-- Split a name into labels at the four full stops. -/
def labelsOf (name : List Char) : List (List Char) :=
  match _h : name.dropWhile (fun c => !isStop c) with
  | [] => [name]
  | _ :: rest => name.takeWhile (fun c => !isStop c) :: labelsOf rest
termination_by name.length
decreasing_by
  have := (List.dropWhile_sublist (fun c => !isStop c) (l := name)).length_le
  rw [_h, List.length_cons] at this
  omega

/-- The ASCII form of a host name, if it is a valid name. -/
def encode (host : String) : Option String :=
  let name := (Text.lower host).toList
  let labels := labelsOf name
  let (labels, dot) := match labels.getLast? with
    | some [] => (labels.dropLast, true)
    | _ => (labels, false)
  if 254 < (Unpaired.points name).length || labels.isEmpty then none
  else
    match labels.mapM encodeLabel with
    | none => none
    | some ls =>
      let out := ['.'].intercalate (if dot then ls ++ [[]] else ls)
      if out.length ≤ (if dot then 254 else 253) then some (String.ofList out) else none

end HostName

end EmployeeGateway
