/-!
# Lines of a text

A line ends at a line feed. A carriage return before that line feed belongs to the line end; the
last line needs no line end, and a text that stops after a line end has no empty line behind it.
-/
namespace Conformance.Text

/-- Removes one carriage return from the end of a line given in reverse. -/
def dropReturn : List Char → List Char
  | '\r' :: s => s
  | s => s

/-- `line` is the line in progress, reversed. -/
def linesFrom (line : List Char) : List Char → List (List Char)
  | [] => if line.isEmpty then [] else [line.reverse]
  | c :: s =>
    if c == '\n' then (dropReturn line).reverse :: linesFrom [] s else linesFrom (c :: line) s

def lines (s : String) : List String :=
  (linesFrom [] s.toList).map String.ofList

end Conformance.Text
