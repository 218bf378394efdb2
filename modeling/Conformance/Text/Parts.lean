/-!
# Parts of texts

Looking for one text in another, and splitting a text at marks.
-/
namespace Conformance.Text

/-- Whether `part` stands somewhere in `s`. -/
def occursIn (part : List Char) : List Char → Bool
  | [] => part.isEmpty
  | c :: s => part.isPrefixOf (c :: s) || occursIn part s

/-- The parts between marks, of which there is one more than there are marks. -/
def split (mark : Char) (s : List Char) : List (List Char) :=
  let (parts, last) := s.foldr (fun c (parts, part) =>
    if c == mark then (part :: parts, []) else (parts, c :: part)) ([], [])
  last :: parts

end Conformance.Text
