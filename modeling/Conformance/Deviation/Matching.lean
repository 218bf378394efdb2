import Conformance.Deviation.Report
import Conformance.Template.Pattern

/-!
# Matching configurations against templates

A configuration line takes the first mandatory pattern that matches it and is still free. A line
that gets none and that no optional pattern matches either is extra; a mandatory pattern left free
is missing.
-/
namespace Conformance

def commandVerbs : List String :=
  ["set", "activate", "deactivate", "delete"]

/-- Whether a line is a command verb, a blank, and something that is not blank. -/
def isCommandLine (line : String) : Bool :=
  let s := line.toList
  match s.dropWhile (!Text.isBlank ·) with
  | [] => false
  | _ :: rest =>
    commandVerbs.contains (String.ofList (s.takeWhile (!Text.isBlank ·))) && !rest.all Text.isBlank

/-- The command lines of a configuration, trimmed. -/
def commandLines (lines : List String) : List String :=
  (lines.map Text.trim).filter isCommandLine

/-- The patterns still free and the lines found to be extra, in reverse. -/
structure Audit where
  free : PatternSet
  extra : List String

namespace Audit

/-- The list without its first member satisfying `p`, if there is one. -/
def removeFirst? {α : Type} (p : α → Bool) : List α → Option (List α)
  | [] => none
  | a :: as => if p a then some as else (removeFirst? p as).map (a :: ·)

def step (optional : PatternSet) (a : Audit) (line : String) : Audit :=
  match removeFirst? (·.isMatch line) a.free with
  | some free => { a with free }
  | none => if optional.anyMatch line then a else { a with extra := line :: a.extra }

def run (mandatory optional : PatternSet) (commands : List String) : Audit :=
  commands.foldl (step optional) ⟨mandatory, []⟩

end Audit

/-- Audits the raw lines of a configuration. -/
def findDeviations (mandatory optional : PatternSet) (lines : List String) : DeviationReport :=
  let audit := Audit.run mandatory optional (commandLines lines)
  .ofLines (audit.free.map Pattern.render) audit.extra.reverse

end Conformance
