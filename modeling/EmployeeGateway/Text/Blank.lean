/-!
# Blank characters

Two sets of blank characters. `isBlank` is the set that splitting into words
and stripping use: the ASCII tab, line feed, vertical tab, form feed and
carriage return, the four information separators U+001C to U+001F, space,
U+0085, U+00A0, U+1680, U+2000 to U+200A, U+2028, U+2029, U+202F, U+205F and
U+3000. `isWhiteSpace` is the Unicode White_Space property, the same set less
the information separators; trimming of numeric text uses it.

`Text.words` splits on runs of blanks and drops empty words; `Text.strip`
and `Text.trim` drop blanks, or white space, at both ends.
-/

namespace EmployeeGateway.Text

/-- Is the character blank for splitting into words and stripping? -/
def isBlank (c : Char) : Bool :=
  let n := c.toNat
  (9 ≤ n && n ≤ 13) || (0x1C ≤ n && n ≤ 0x20) || n == 0x85 || n == 0xA0 || n == 0x1680 ||
    (0x2000 ≤ n && n ≤ 0x200A) || n == 0x2028 || n == 0x2029 || n == 0x202F ||
    n == 0x205F || n == 0x3000

/-- Does the character have the Unicode White_Space property? -/
def isWhiteSpace (c : Char) : Bool :=
  isBlank c && !(0x1C ≤ c.toNat && c.toNat ≤ 0x1F)

/-- Drop characters satisfying `p` at both ends. -/
def dropEnds (p : Char → Bool) (s : String) : String :=
  String.ofList ((s.toList.dropWhile p).reverse.dropWhile p).reverse

/-- Drop blanks at both ends. -/
def strip (s : String) : String := dropEnds isBlank s

/-- Drop white space at both ends. -/
def trim (s : String) : String := dropEnds isWhiteSpace s

/-- Split into words: maximal runs of characters that are not blank. -/
def wordsOf : List Char → List Char → List String
  | [], [] => []
  | [], acc => [String.ofList acc.reverse]
  | c :: cs, acc =>
    if isBlank c then
      if acc.isEmpty then wordsOf cs [] else String.ofList acc.reverse :: wordsOf cs []
    else wordsOf cs (c :: acc)

/-- The words of a string, split on runs of blanks. -/
def words (s : String) : List String := wordsOf s.toList []

end EmployeeGateway.Text
