/-!
# Blank characters

The characters that count as blank everywhere in this library, and the operations that cut text at
them: trimming, and splitting into words.
-/
namespace Conformance.Text

/-- The `White_Space` property of Unicode. -/
def isBlank (c : Char) : Bool :=
  let n := c.toNat
  n == 0x20 || (0x9 ≤ n && n ≤ 0xD) || n == 0x85 || n == 0xA0 || n == 0x1680 ||
    (0x2000 ≤ n && n ≤ 0x200A) || n == 0x2028 || n == 0x2029 || n == 0x202F || n == 0x205F ||
    n == 0x3000

/-- Drops the characters satisfying `p` from both ends. -/
def stripList (p : Char → Bool) (s : List Char) : List Char :=
  ((s.dropWhile p).reverse.dropWhile p).reverse

def trimList (s : List Char) : List Char :=
  stripList isBlank s

def trim (s : String) : String :=
  String.ofList (trimList s.toList)

/-- Spaces and tabs only; other blanks at the ends of a line are kept. -/
def isSpaceOrTab (c : Char) : Bool :=
  c == ' ' || c == '\t'

def trimSpaces (s : String) : String :=
  String.ofList (stripList isSpaceOrTab s.toList)

/-- The maximal runs of non-blank characters; `word` is the run in progress, reversed. -/
def wordsFrom (word : List Char) : List Char → List (List Char)
  | [] => if word.isEmpty then [] else [word.reverse]
  | c :: s =>
    if isBlank c then
      if word.isEmpty then wordsFrom [] s else word.reverse :: wordsFrom [] s
    else wordsFrom (c :: word) s

def words (s : String) : List String :=
  (wordsFrom [] s.toList).map String.ofList

end Conformance.Text
