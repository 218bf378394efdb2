import Conformance.Regex.Matching
import Conformance.Regex.Reader

/-!
# Patterns

A pattern is a text that reads as an expression, with group names that differ, within limits on how
deeply its notation nests and how much its expression takes to store.
-/
namespace Conformance.Regex

/-- How deeply groups, classes, repetitions, sequences and alternatives may nest. -/
def depthLimit : Nat := 250

/-- The bytes that a compiled expression may take. -/
def sizeLimit : Nat := 10485760

namespace CharSet

/-- About how many ranges of characters the set has. -/
def rangeCount : CharSet → Nat
  | empty => 0
  | range _ _ => 1
  | property p =>
    if p == .word then 796 else if p == .digit then 71 else if p == .blank then 10 else 300
  | union a b | inter a b | diff a b => a.rangeCount + b.rangeCount
  | compl a => a.rangeCount + 1
  | folded a => 2 * a.rangeCount

/-- Whether the set is plainly within ASCII. -/
def isAscii : CharSet → Bool
  | empty => true
  | range _ high => high.toNat < 128
  | property p => p == .ascii
  | union a b => a.isAscii && b.isAscii
  | inter a b => a.isAscii || b.isAscii
  | diff a _ => a.isAscii
  | compl _ => false
  | folded _ => false

/-- An estimate of the bytes that one occurrence of the set takes. -/
def weight : CharSet → Nat
  | range low high =>
    if low == high then 32 * low.utf8Size
    else if high.toNat < 128 then 72
    else 500
  | set => if set.isAscii then 64 + 8 * set.rangeCount else 450 + 24 * set.rangeCount

end CharSet

/-- An estimate of the bytes that an expression takes once its repetitions are written out. -/
def Expr.weight : Expr → Nat
  | .empty => 32
  | .chars set => set.weight
  | .look _ => 32
  | .seq a b => a.weight + b.weight
  | .alt a b => a.weight + b.weight + 40
  | .rep e least none => max least 1 * e.weight + 72
  | .rep e least (some most) => most * e.weight + (most - least) * 44

/-- Why a text is refused: it is not a pattern, or one beyond the limits. -/
inductive Refusal where
  | fault (fault : Fault)
  | tooDeep
  | tooBig
  deriving DecidableEq, Repr

/-- Reads a pattern of any size. -/
def readPattern (pattern : String) : Except Fault Piece := do
  let reading ← Reading.start.readAll pattern.toList
  let piece ← reading.finish
  if !decide reading.names.Nodup then throw .repeatedCaptureName
  return piece

/-- The expression of a pattern within the limits. -/
def parse (pattern : String) : Except Refusal Expr := do
  let piece ← (readPattern pattern).mapError .fault
  if piece.depth > depthLimit then throw .tooDeep
  if piece.expr.weight > sizeLimit then throw .tooBig
  return piece.expr

end Conformance.Regex
