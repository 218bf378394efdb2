import Conformance.Text.Blank

/-!
# Tokens of a template line

A line is cut into literal text and names between double braces. A single brace is literal text, and
so is an opening without a closing, to the end of the line.
-/
namespace Conformance.Template

inductive Token where
  | literal (text : List Char)
  | placeholder (name : List Char)
  deriving DecidableEq, Repr

/-- Where in a line the scan is. The text or name so far is in reverse, and a brace that may be the
first of two is held back. -/
inductive Place where
  | text (sofar : List Char) (brace : Bool)
  | name (sofar : List Char) (brace : Bool)
  deriving DecidableEq, Repr

def literalToken (text : List Char) : List Token :=
  if text.isEmpty then [] else [.literal text.reverse]

/-- Puts a brace that was held back behind what has been read. -/
def settle (brace : Char) (held : Bool) (sofar : List Char) : List Char :=
  if held then brace :: sofar else sofar

def tokensFrom : Place → List Char → List Token
  | .text sofar held, [] => literalToken (settle '\x7b' held sofar)
  | .name sofar held, [] =>
    literalToken (settle '\x7d' held sofar ++ ['\x7b', '\x7b'])
  | .text sofar held, c :: s =>
    if c = '\x7b' then
      if held then literalToken sofar ++ tokensFrom (.name [] false) s
      else tokensFrom (.text sofar true) s
    else tokensFrom (.text (c :: settle '\x7b' held sofar) false) s
  | .name sofar held, c :: s =>
    if c = '\x7d' then
      if held then
        .placeholder (Text.trimList sofar.reverse) :: tokensFrom (.text [] false) s
      else tokensFrom (.name sofar true) s
    else tokensFrom (.name (c :: settle '\x7d' held sofar) false) s

def tokens (line : List Char) : List Token :=
  tokensFrom (.text [] false) line

end Conformance.Template
