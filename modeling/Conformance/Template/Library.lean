import Conformance.Device.Profile
import Conformance.Template.Pattern
import Conformance.Text.Lines

/-!
# Template libraries

A library has five templates. What every device must carry is the baseline and one augmentation;
which one depends on the device's profile. The optional lines are allowed and not required.
-/
namespace Conformance

/-- A line of a template that takes part, with its number in the text. -/
structure TemplateLine where
  number : Nat
  text : String
  deriving DecidableEq, Repr

/-- Numbers the lines from `n` on, and leaves out those that are blank or comments. -/
def numberedFrom (n : Nat) : List String → List TemplateLine
  | [] => []
  | line :: rest =>
    match Text.trimList line.toList with
    | [] | '#' :: _ => numberedFrom (n + 1) rest
    | text => ⟨n, String.ofList text⟩ :: numberedFrom (n + 1) rest

def parseTemplate (text : String) : List TemplateLine :=
  numberedFrom 1 (Text.lines text)

structure Library where
  baseline : List TemplateLine
  els : List TemplateLine
  nonEls : List TemplateLine
  routing : List TemplateLine
  optional : List TemplateLine
  deriving DecidableEq, Repr

inductive Augmentation where
  | els
  | nonEls
  | routing
  deriving DecidableEq, Repr

namespace Augmentation

def all : List Augmentation :=
  [els, nonEls, routing]

def name : Augmentation → String
  | els => "els"
  | nonEls => "non-els"
  | routing => "routing"

def ofName? (name : String) : Option Augmentation :=
  all.find? (·.name == name)

/-- Routing takes the place of the family's augmentation. -/
def ofProfile (p : Profile) : Augmentation :=
  if p.routing then routing
  else match p.family with
    | .els => els
    | .nonEls => nonEls

def lines (library : Library) : Augmentation → List TemplateLine
  | els => library.els
  | nonEls => library.nonEls
  | routing => library.routing

end Augmentation

structure CompiledTemplates where
  augmentation : Augmentation
  mandatory : PatternSet
  optional : PatternSet

namespace Library

def compileLines (mapping : Mapping) (lines : List TemplateLine) : Except CompileError PatternSet :=
  PatternSet.compile mapping (lines.map TemplateLine.text)

/-- Compiles the baseline, then the augmentation, then the optional lines. -/
def compileWith (library : Library) (mapping : Mapping) (augmentation : Augmentation) :
    Except CompileError CompiledTemplates := do
  let baseline ← compileLines mapping library.baseline
  let added ← compileLines mapping (augmentation.lines library)
  let optional ← compileLines mapping library.optional
  return ⟨augmentation, baseline ++ added, optional⟩

def compile (library : Library) (mapping : Mapping) (profile : Profile) :
    Except CompileError CompiledTemplates :=
  library.compileWith mapping (.ofProfile profile)

/-- The number of mandatory patterns under each augmentation, or why there are none. -/
def verify (library : Library) (mapping : Mapping) :
    List (Augmentation × Except CompileError Nat) :=
  Augmentation.all.map fun augmentation =>
    (augmentation, (library.compileWith mapping augmentation).map (·.mandatory.length))

end Library
end Conformance
