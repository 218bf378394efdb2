import Conformance.Catalog

/-!
# Variables

Template variables stand for pattern fragments. A variable names a term and a term has a fragment;
a variable whose term is unknown stands for nothing.
-/
namespace Conformance

/-- Fragments of the variables that have one. -/
abbrev Mapping := Catalog String

/-- Joins variables to fragments by way of their terms: `meanings` has the term of each variable,
and `terms` the fragment of each term. -/
def Mapping.ofTables (terms meanings : Catalog String) : Mapping :=
  .ofList (meanings.entries.filterMap fun (name, term) =>
    (terms.get? term).map fun fragment => (name, fragment))

end Conformance
