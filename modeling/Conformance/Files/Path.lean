import Conformance.Text.Parts

/-!
# Paths

A path is a text whose steps are separated by slashes. Paths are joined and shortened as texts, so
that they are shown as they were given.
-/
namespace Conformance

abbrev Path := String

namespace Path

def isAbsolute (p : Path) : Bool :=
  p.toList.head? == some '/'

/-- The path that `p` is, seen from `base`. -/
def join (base p : Path) : Path :=
  if isAbsolute p || base.isEmpty then p
  else if base.toList.getLast? == some '/' then base ++ p
  else base ++ "/" ++ p

/-- Puts a relative path below `base`; no path at all stays as it is. -/
def anchor (base p : Path) : Path :=
  if isAbsolute p || p.isEmpty then p else base.join p

/-- Whether a step leads nowhere. -/
def isIdle (step : List Char) : Bool :=
  step == [] || step == ['.']

def dropIdle (steps : List (List Char)) : List (List Char) :=
  (steps.reverse.dropWhile isIdle).reverse

/-- What a path starts from, if it says so, and the rest of it. -/
def splitFront : List Char → List Char × List Char
  | '/' :: s => (['/'], s)
  | ['.'] => (['.'], [])
  | '.' :: '/' :: s => (['.'], '/' :: s)
  | s => ([], s)

/-- The path without its last step. -/
def parent? (p : Path) : Option Path :=
  let (front, body) := splitFront p.toList
  match dropIdle (Text.split '/' body) with
  | [] => if front == ['.'] then some "" else none
  | steps =>
    some (String.ofList (front ++ ['/'].intercalate (dropIdle steps.dropLast)))

/-- The steps with a name, `.` and `..` among them. -/
def steps (p : Path) : List String :=
  ((Text.split '/' p.toList).filter (!·.isEmpty)).map String.ofList

/-- Whether a path says that it leads to a directory. -/
def endsInSlash (p : Path) : Bool :=
  p.toList.getLast? == some '/'

/-- What a path starts from, if it says so: the root, or where one is. -/
def origin (p : Path) : List String :=
  if p.isAbsolute then ["/"] else if p.steps.head? == some "." then ["."] else []

/-- The steps that lead somewhere. -/
def moves (p : Path) : List String :=
  p.steps.filter (· != ".")

def components (p : Path) : List String :=
  p.origin ++ p.moves

/-- A text that a directory can have an entry under. -/
structure IsName (name : String) : Prop where
  slash_not_mem : '/' ∉ name.toList
  ne_empty : name ≠ ""
  ne_here : name ≠ "."
  ne_up : name ≠ ".."

instance (name : String) : Decidable (IsName name) :=
  decidable_of_iff ('/' ∉ name.toList ∧ name ≠ "" ∧ name ≠ "." ∧ name ≠ "..")
    ⟨fun h => ⟨h.1, h.2.1, h.2.2.1, h.2.2.2⟩, fun h => ⟨h.1, h.2, h.3, h.4⟩⟩

end Path
end Conformance
