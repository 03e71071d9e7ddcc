import EmployeeGateway.Text.NormalTable

/-!
# Canonical composition

`Text.nfc` brings code points to Unicode 14.0's normalization form C: every
code point is replaced by its full canonical decomposition (Hangul syllables
by their jamo), each run of code points of nonzero combining class is put in
order of class (keeping the order of equal classes), and then, from left to
right, a code point is joined to the last starter (class zero) before it when
the two form a primary composite and nothing between them blocks it: a code
point between blocks when its class is zero or not below the class of the one
being joined. `Text.isNfc` says whether a text is its own form C.
-/

namespace EmployeeGateway.Text

/-- The canonical combining class of a code point. -/
def combiningClass (c : Nat) : Nat :=
  match combiningRanges.find? (fun r => r.1 ≤ c && c ≤ r.2.1) with
  | some r => r.2.2
  | none => 0

/-- The first Hangul syllable, and the first leading, vowel and trailing
jamo (the trailing base is one before the first trailing jamo). -/
def syllableBase : Nat := 0xAC00
def leadBase : Nat := 0x1100
def vowelBase : Nat := 0x1161
def trailBase : Nat := 0x11A7

/-- Is the code point a precomposed Hangul syllable? -/
def isSyllable (c : Nat) : Bool := syllableBase ≤ c && c < syllableBase + 11172

/-- The full canonical decomposition of a code point. -/
def decomposeCode (c : Nat) : List Nat :=
  if isSyllable c then
    let s := c - syllableBase
    let t := s % 28
    let lv := [leadBase + s / 588, vowelBase + s % 588 / 28]
    if t == 0 then lv else lv ++ [trailBase + t]
  else (decompositions.lookup c).getD [c]

/-- Put each run of code points of nonzero class in order of class; `run`
holds the current run, last first. -/
def reorderFrom (run : List Nat) : List Nat → List Nat
  | [] => run.reverse.mergeSort fun a b => combiningClass a ≤ combiningClass b
  | c :: cs =>
    if combiningClass c == 0 then
      (run.reverse.mergeSort fun a b => combiningClass a ≤ combiningClass b) ++ c :: reorderFrom [] cs
    else reorderFrom (c :: run) cs

/-- The primary composite of two code points, if they form one. -/
def composePair (a b : Nat) : Option Nat :=
  if leadBase ≤ a && a < leadBase + 19 && vowelBase ≤ b && b < vowelBase + 21 then
    some (syllableBase + ((a - leadBase) * 21 + (b - vowelBase)) * 28)
  else if isSyllable a && (a - syllableBase) % 28 == 0 && trailBase < b && b < trailBase + 28 then
    some (a + (b - trailBase))
  else (compositions.find? fun r => r.1 == a && r.2.1 == b).map (·.2.2)

/-- Compose from left to right. `done` holds the output before the current
starter, last first; `tail` the code points after the starter that did not
join it, last first. -/
def composeFrom (done : List Nat) (starter : Option Nat) (tail : List Nat) : List Nat → List Nat
  | [] => done.reverse ++ starter.toList ++ tail.reverse
  | c :: cs =>
    let k := combiningClass c
    let blocked := match tail with
      | [] => false
      | b :: _ => k ≤ combiningClass b
    let joined := if blocked then none else starter.bind fun s => composePair s c
    match joined with
    | some x => composeFrom done (some x) tail cs
    | none =>
      if k == 0 then composeFrom (tail ++ starter.toList ++ done) (some c) [] cs
      else composeFrom done starter (c :: tail) cs

/-- The normalization form C of code points. -/
def nfc (cs : List Nat) : List Nat :=
  composeFrom [] none [] (reorderFrom [] (cs.flatMap decomposeCode))

/-- Are the code points in normalization form C? -/
def isNfc (cs : List Nat) : Bool := nfc cs == cs

end EmployeeGateway.Text
