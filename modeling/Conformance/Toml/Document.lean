import Conformance.Toml.Statement

/-!
# TOML documents

A document is one table. Headers say to which table inside it the entries that follow belong.
-/
namespace Conformance.Toml

/-- The table of a document so far, and the path of the last header. -/
structure Document where
  root : Draft
  path : List String

namespace Document

def empty : Document :=
  ⟨.empty, []⟩

/-- Opens what a header names, in the table that holds it. -/
def openAt (f : String → Draft → Option Draft) (path : List String) (d : Document) :
    Option Document := do
  let name ← path.getLast?
  return ⟨← d.root.change false (f name) path.dropLast, path⟩

def add (d : Document) : Statement → Option Document
  | .table path => d.openAt Draft.openTable path
  | .element path => d.openAt Draft.openElement path
  | .entry key v => do return ⟨← d.root.change false (Draft.addEntry key v) d.path, d.path⟩

end Document

/-- The table that a text denotes. -/
def parse? (text : String) : Option Value := do
  let d ← (← statements? (← tokens text.toList)).foldlM Document.add .empty
  return d.root.toValue

end Conformance.Toml
