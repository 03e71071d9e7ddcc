import EmployeeGateway.Text.LowerTable
import EmployeeGateway.Text.CasingTable

/-!
# Lowercase mapping and finding text

`Text.lower` maps a string to lowercase the way Unicode 14.0 full case
mapping does without a language: each code point by its simple mapping, `İ`
(U+0130) to `i` followed by a combining dot above, and the capital sigma by
the final-sigma rule: it becomes `ς` when a cased letter precedes it and no
cased letter follows it, case-ignorable code points being skipped on both
sides; otherwise `σ`.

`Text.occursIn needle haystack` says whether `needle` appears as a
contiguous piece of `haystack`; the empty needle appears in every text.
-/

namespace EmployeeGateway.Text

/-- Does a code point lie in one of the inclusive ranges? -/
def inRanges (table : List (Nat × Nat)) (c : Nat) : Bool :=
  table.any fun r => r.1 ≤ c && c ≤ r.2

/-- Is the character case-ignorable? -/
def isCaseIgnorable (c : Char) : Bool := inRanges caseIgnorableRanges c.toNat

/-- Is the character cased and not case-ignorable? -/
def isCasedLetter (c : Char) : Bool := inRanges casedRanges c.toNat

/-- The simple lowercase mapping of a code point. -/
def lowerCode (c : Nat) : Nat :=
  if c < 128 then (if 65 ≤ c && c ≤ 90 then c + 32 else c)
  else
    match lowerRuns.find? (fun r => r.first ≤ c && c ≤ r.last && (c - r.first) % r.step == 0) with
    | some r => (c + r.delta).toNat
    | none => c

/-- The lowercase of one character outside the final-sigma rule. -/
def lowerChar (c : Char) : List Char :=
  if c.toNat == 0x130 then ['i', Char.ofNat 0x307]
  else [Char.ofNat (lowerCode c.toNat)]

/-- Is a capital sigma between `before` (nearest first) and `after` at the
end of a word? -/
def finalSigma (before after : List Char) : Bool :=
  let casedBefore := match before.dropWhile isCaseIgnorable with
    | c :: _ => isCasedLetter c
    | [] => false
  let casedAfter := match after.dropWhile isCaseIgnorable with
    | c :: _ => isCasedLetter c
    | [] => false
  casedBefore && !casedAfter

/-- Lowercase the characters of `rest`, `before` holding the characters
already passed, nearest first. -/
def lowerChars : List Char → List Char → List Char
  | _, [] => []
  | before, c :: rest =>
    let out :=
      if c.toNat == 0x3A3 then [if finalSigma before rest then Char.ofNat 0x3C2 else Char.ofNat 0x3C3]
      else lowerChar c
    out ++ lowerChars (c :: before) rest

/-- The full lowercase of a string. -/
def lower (s : String) : String := String.ofList (lowerChars [] s.toList)

/-! ## Finding text inside text -/

/-- Does `needle` occur contiguously in the characters `hay`? -/
def occursInChars (needle : List Char) : List Char → Bool
  | [] => needle.isEmpty
  | c :: cs => needle.isPrefixOf (c :: cs) || occursInChars needle cs

/-- Does `needle` occur contiguously in `haystack`? -/
def occursIn (needle haystack : String) : Bool := occursInChars needle.toList haystack.toList

end EmployeeGateway.Text
