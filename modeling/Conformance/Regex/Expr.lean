import Conformance.Regex.CharSet

/-!
# Regular expressions

The expression that a pattern stands for. Groups and the preference for longer or shorter matches
leave no trace in it: the library only asks whether a text matches. `Span` says which pieces of a
text an expression matches; anchors and word boundaries look at the whole text around the piece.
-/
namespace Conformance.Regex

/-- Word boundaries, told apart by which side must be a word character. -/
inductive WordEdge where
  | either | neither | start | finish | startHalf | finishHalf
  deriving DecidableEq, Repr

/-- Conditions on a position. -/
inductive Look where
  | textStart
  | textEnd
  /-- With `crlf`, carriage returns end lines too, and never between the two halves of a pair. -/
  | lineStart (crlf : Bool)
  | lineEnd (crlf : Bool)
  | wordEdge (edge : WordEdge) (asciiOnly : Bool)
  deriving DecidableEq, Repr

inductive Expr where
  | empty
  | chars (set : CharSet)
  | look (condition : Look)
  | seq (first second : Expr)
  | alt (first second : Expr)
  | rep (body : Expr) (least : Nat) (most : Option Nat)
  deriving DecidableEq, Repr

namespace Look

def isWordAt (asciiOnly : Bool) : Option Char → Bool
  | none => false
  | some c => Unicode.isWord c && (!asciiOnly || c.toNat < 128)

/-- Whether the condition holds before the character at index `i`. -/
def holds (text : Array Char) (i : Nat) (condition : Look) : Bool :=
  let before := if i = 0 then none else text[i - 1]?
  let after := text[i]?
  match condition with
  | textStart => i == 0
  | textEnd => i == text.size
  | lineStart false => before.isNone || before == some '\n'
  | lineStart true =>
    before.isNone || before == some '\n' || (before == some '\r' && after != some '\n')
  | lineEnd false => after.isNone || after == some '\n'
  | lineEnd true =>
    after.isNone || after == some '\r' || (after == some '\n' && before != some '\r')
  | wordEdge edge asciiOnly =>
    let left := isWordAt asciiOnly before
    let right := isWordAt asciiOnly after
    match edge with
    | .either => left != right
    | .neither => left == right
    | .start => !left && right
    | .finish => left && !right
    | .startHalf => !left
    | .finishHalf => !right

end Look

/-- `Span text e i j`: the expression `e` matches the piece of `text` from `i` up to `j`. -/
inductive Span (text : Array Char) : Expr → Nat → Nat → Prop where
  | empty {i} : Span text .empty i i
  | chars {set i c} : text[i]? = some c → set.contains c → Span text (.chars set) i (i + 1)
  | look {condition i} : condition.holds text i → Span text (.look condition) i i
  | seq {a b i j k} : Span text a i j → Span text b j k → Span text (.seq a b) i k
  | altFirst {a b i j} : Span text a i j → Span text (.alt a b) i j
  | altSecond {a b i j} : Span text b i j → Span text (.alt a b) i j
  | repDone {e most i} : Span text (.rep e 0 most) i i
  | repMore {e least most i j k} : most ≠ some 0 → Span text e i j →
      Span text (.rep e (least - 1) (most.map (· - 1))) j k → Span text (.rep e least most) i k

namespace Expr

/-- Any expression of a list, one after the other. -/
def ofSeq : List Expr → Expr
  | [] => .empty
  | [e] => e
  | e :: es => .seq e (ofSeq es)

/-- One expression of a list; of none, nothing matches. -/
def ofAlt : List Expr → Expr
  | [] => .chars .empty
  | [e] => e
  | e :: es => .alt e (ofAlt es)

def literal (text : List Char) : Expr :=
  ofSeq (text.map fun c => .chars (.only c))

/-- Whether the expression can match nothing but empty pieces. -/
def isWidthless : Expr → Bool
  | empty => true
  | chars _ => false
  | look _ => true
  | seq a b => a.isWidthless && b.isWidthless
  | alt a b => a.isWidthless && b.isWidthless
  | rep e _ most => e.isWidthless || most == some 0

/-- Repetition; of a widthless expression one round says as much as any number of rounds. -/
def repeated (e : Expr) (least : Nat) (most : Option Nat) : Expr :=
  if e.isWidthless then .rep e (min least 1) (some (min (most.getD 1) 1)) else .rep e least most

end Expr
end Conformance.Regex
