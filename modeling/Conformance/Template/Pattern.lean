import Conformance.Regex.Basic
import Conformance.Template.Mapping
import Conformance.Template.Token
import Conformance.Text.Quoted

/-!
# Patterns of template lines

A template line compiles to one anchored regular expression: literal text is escaped, and a
placeholder becomes the fragment of its variable in a group of its own.
-/
namespace Conformance

inductive Segment where
  /-- Literal text, escaped. -/
  | literal (escaped : String)
  | placeholder (name fragment : String)
  deriving DecidableEq, Repr

namespace Segment

def expression : Segment → String
  | literal escaped => escaped
  | placeholder _ fragment => "(?:" ++ fragment ++ ")"

/-- The segment as a template writes it. -/
def rendered : Segment → String
  | literal escaped => Regex.unescape escaped
  | placeholder name _ => "\x7b\x7b" ++ name ++ "\x7d\x7d"

def placeholderName? : Segment → Option String
  | literal _ => none
  | placeholder name _ => some name

end Segment

/-- Why a template line does not compile. -/
inductive CompileError where
  | undefinedVariable (name line : String)
  | invalidPattern (line : String) (refusal : Regex.Refusal)
  deriving DecidableEq, Repr

namespace CompileError

/-- The message, with `reason` for what is wrong with an invalid pattern. -/
def message (reason : String) : CompileError → String
  | undefinedVariable name line =>
    "undefined variable \x7b\x7b" ++ name ++ "\x7d\x7d in template line: " ++ line
  | invalidPattern line _ =>
    "template line " ++ Text.quote line ++ " does not compile to a valid pattern: " ++ reason

end CompileError

/-- The expression of a whole line. -/
def anchored (expression : String) : String :=
  "^(?:" ++ expression ++ ")$"

/-- A compiled template line. -/
structure Pattern where
  source : String
  segments : List Segment
  expression : String
  regex : Regex.Expr
  parse_eq : Regex.parse (anchored expression) = .ok regex

namespace Pattern

/-- Patterns are the same if they come from the same line and have the same expression. -/
instance : BEq Pattern where
  beq p q := p.source == q.source && p.expression == q.expression

def isMatch (p : Pattern) (line : String) : Bool :=
  p.regex.isMatch line

/-- The names of the placeholders, in order. -/
def names (p : Pattern) : List String :=
  p.segments.filterMap Segment.placeholderName?

/-- The pattern in the form of a template line, its placeholders restored. -/
def render (p : Pattern) : String :=
  Text.trimSpaces (String.join (p.segments.map Segment.rendered))

def segmentOf (mapping : Mapping) (line : String) : Template.Token → Except CompileError Segment
  | .literal text => .ok (.literal (String.ofList (Regex.escapeList text)))
  | .placeholder name =>
    match mapping.get? (String.ofList name) with
    | some fragment => .ok (.placeholder (String.ofList name) fragment)
    | none => .error (.undefinedVariable (String.ofList name) line)

def ofSegments (source : String) (segments : List Segment) : Except CompileError Pattern :=
  let expression := Text.trimSpaces (String.join (segments.map Segment.expression))
  match h : Regex.parse (anchored expression) with
  | .ok regex => .ok ⟨source, segments, expression, regex, h⟩
  | .error refusal => .error (.invalidPattern source refusal)

/-- Compiles a template line. The first undefined variable is reported before anything else. -/
def compile (mapping : Mapping) (line : String) : Except CompileError Pattern := do
  let source := Text.trim line
  let segments ← (Template.tokens source.toList).mapM (segmentOf mapping source)
  ofSegments source segments

end Pattern

/-- Patterns in the order in which they are tried. -/
abbrev PatternSet := List Pattern

namespace PatternSet

def anyMatch (patterns : PatternSet) (line : String) : Bool :=
  patterns.any (·.isMatch line)

/-- Compiles lines up to the first that does not compile. -/
def compile (mapping : Mapping) (lines : List String) : Except CompileError PatternSet :=
  lines.mapM (Pattern.compile mapping)

end PatternSet
end Conformance
