import Conformance.Proofs.Table.Rows
import Conformance.Proofs.Template.Splitting

/-!
# Variables of tables

A variable of a template line is looked up through the rows of two tables: the last row for the
variable gives its term, and the last row for the term gives the fragment. There is no third step,
and no other row takes part.
-/
namespace Conformance

open Table (Row LastEntry valuesIn)

variable {terms meanings : Catalog String} {termRows meaningRows : List Row}
  {name fragment : String}

/-! ## Joined tables -/

theorem Catalog.valuesOf_filterMap {β γ : Type} (f : β → Option γ) (pairs : List (String × β))
    (key : String) :
    valuesOf (pairs.filterMap fun (name, value) => (f value).map fun result => (name, result)) key =
      (valuesOf pairs key).filterMap f := by
  rw [valuesOf, valuesOf, List.filterMap_filterMap, List.filterMap_filterMap]
  refine List.filterMap_congr fun pair _ => ?_
  by_cases h : pair.1 = key <;> cases hvalue : f pair.2 <;> simp [h, hvalue]

theorem get?_ofTables (terms meanings : Catalog String) (name : String) :
    (Mapping.ofTables terms meanings).get? name = (meanings.get? name).bind terms.get? := by
  rw [Mapping.ofTables, Catalog.get?_ofList, Catalog.valuesOf_filterMap, Catalog.valuesOf_entries]
  cases meanings.get? name with
  | none => rfl
  | some term => cases h : terms.get? term <;> simp [h]

/-- Rows of terms and of variables that lead from a name to a fragment. -/
def Resolves (termRows meaningRows : List Row) (name fragment : String) : Prop :=
  ∃ term, LastEntry meaningRows name term ∧ LastEntry termRows term fragment

theorem get?_eq_some_iff_resolves (hterms : Table.ofRows termRows = .ok terms)
    (hmeanings : Table.ofRows meaningRows = .ok meanings) (name fragment : String) :
    (Mapping.ofTables terms meanings).get? name = some fragment ↔
      Resolves termRows meaningRows name fragment := by
  rw [get?_ofTables, Option.bind_eq_some_iff, Resolves]
  simp only [Table.get?_ofRows hterms, Table.get?_ofRows hmeanings, Table.getLast?_valuesIn]

/-! ## Lines with names that are not resolved -/

/-- Two tables resolve a name by the last row for the name and the last row for its term. A name that
is not resolved is reported by each line in which it is the first such name. Neither rows for other
keys nor the order of rows with different keys make a difference: all that counts is which values
the variables have for the name, and the terms for its term, in their order. -/
theorem resolves_in_two_steps (hterms : Table.ofRows termRows = .ok terms)
    (hmeanings : Table.ofRows meaningRows = .ok meanings) (name : String) :
    (∀ fragment, (Mapping.ofTables terms meanings).get? name = some fragment ↔
      Resolves termRows meaningRows name fragment) ∧
    ((∀ fragment, ¬ Resolves termRows meaningRows name fragment) → ∀ line before after,
      Template.namesOf (Pattern.piecesOf line) = before ++ name :: after →
      (∀ other ∈ before, ∃ fragment, Resolves termRows meaningRows other fragment) →
      Pattern.compile (.ofTables terms meanings) line =
        .error (.undefinedVariable name (Text.trim line))) ∧
    ∀ termRows' meaningRows' terms' meanings', Table.ofRows termRows' = .ok terms' →
      Table.ofRows meaningRows' = .ok meanings' →
      valuesIn meaningRows' name = valuesIn meaningRows name →
      (∀ term, LastEntry meaningRows name term → valuesIn termRows' term = valuesIn termRows term) →
      (Mapping.ofTables terms' meanings').get? name = (Mapping.ofTables terms meanings).get? name := by
  have hresolves := get?_eq_some_iff_resolves hterms hmeanings
  refine ⟨hresolves name, ?_, ?_⟩
  · intro hnone line before after hnames hbefore
    apply Pattern.compile_eq_undefinedVariable
    rw [Pattern.undefined?, hnames, List.find?_eq_some_iff_append]
    refine ⟨?_, before, after, rfl, ?_⟩
    · rw [Option.isNone_iff_eq_none, Option.eq_none_iff_forall_ne_some]
      exact fun fragment hget => hnone fragment ((hresolves name fragment).mp hget)
    · intro other hother
      obtain ⟨fragment, hfragment⟩ := hbefore other hother
      simp [(hresolves other fragment).mpr hfragment]
  · intro termRows' meaningRows' terms' meanings' hterms' hmeanings' hname hterm
    have hmeaning : meanings'.get? name = meanings.get? name := by
      rw [Table.get?_ofRows hmeanings', Table.get?_ofRows hmeanings, hname]
    rw [get?_ofTables, get?_ofTables, hmeaning]
    cases hget : meanings.get? name with
    | none => rfl
    | some term =>
      rw [Table.get?_ofRows hmeanings, Table.getLast?_valuesIn] at hget
      rw [Option.bind_some, Option.bind_some, Table.get?_ofRows hterms', Table.get?_ofRows hterms,
        hterm term hget]

def sampleTerms : List Row :=
  [⟨2, some ["HOST", "[a-z]+"]⟩, ⟨3, some ["ADDRESS", "[0-9.]+"]⟩, ⟨4, some ["", ""]⟩,
    ⟨5, some ["HOST", "\\w+"]⟩]

/-- Variables, one with the name of a term and one whose term is unknown. -/
def sampleMeanings : List Row :=
  [⟨2, some ["NAME", "HOST"]⟩, ⟨3, some ["HOST", "ADDRESS"]⟩, ⟨4, some ["BANNER", "TEXT"]⟩]

/-- The terms in another order, with more rows, one of which has the name of a variable. -/
def otherTerms : List Row :=
  [⟨2, some ["NAME", "x"]⟩, ⟨3, some ["HOST", "[a-z]+"]⟩, ⟨4, some ["HOST", "\\w+"]⟩,
    ⟨5, some ["ADDRESS", "[0-9.]+"]⟩]

def sampleLine : String :=
  "set \x7b\x7bNAME\x7d\x7d \x7b\x7bBANNER\x7d\x7d \x7b\x7bX\x7d\x7d"

theorem ofRows_ofList (rows : List Row) (h : ∀ row ∈ rows, ∃ cells, row.cells = some cells ∧
    ((∃ cell ∈ cells, cell ≠ "") → ∃ key value, cells = [key, value] ∧ key ≠ "")) :
    Table.ofRows rows = .ok (Catalog.ofList (Table.entries rows)) :=
  Table.ofRows_eq_ok.mpr ⟨fun row hrow => Table.forall_not_isAtFault.mpr (h row hrow), rfl⟩

/-- The name of a term is also that of a variable, and each is looked up in its own table. -/
theorem resolves_in_two_steps_sample :
    ∃ terms terms' meanings, Table.ofRows sampleTerms = .ok terms ∧
      Table.ofRows otherTerms = .ok terms' ∧ Table.ofRows sampleMeanings = .ok meanings ∧
      (Mapping.ofTables terms meanings).get? "NAME" = some "\\w+" ∧
      (Mapping.ofTables terms meanings).get? "HOST" = some "[0-9.]+" ∧
      (Mapping.ofTables terms' meanings).get? "NAME" = (Mapping.ofTables terms meanings).get? "NAME" ∧
      Pattern.compile (.ofTables terms meanings) sampleLine =
        .error (.undefinedVariable "BANNER" sampleLine) := by
  have hterms := ofRows_ofList sampleTerms (by simp [sampleTerms])
  have hterms' := ofRows_ofList otherTerms (by simp [otherTerms])
  have hmeanings := ofRows_ofList sampleMeanings (by simp [sampleMeanings])
  have hlast : ∀ {rows key value}, (valuesIn rows key).getLast? = some value ↔
      LastEntry rows key value := Table.getLast?_valuesIn
  have hname : Resolves sampleTerms sampleMeanings "NAME" "\\w+" :=
    ⟨"HOST", hlast.mp (by decide +kernel), hlast.mp (by decide +kernel)⟩
  have hhost : Resolves sampleTerms sampleMeanings "HOST" "[0-9.]+" :=
    ⟨"ADDRESS", hlast.mp (by decide +kernel), hlast.mp (by decide +kernel)⟩
  have hbanner : ∀ fragment, ¬ Resolves sampleTerms sampleMeanings "BANNER" fragment := by
    rintro fragment ⟨term, hterm, hfragment⟩
    have hmeaning : (valuesIn sampleMeanings "BANNER").getLast? = some "TEXT" := by decide +kernel
    obtain rfl := Option.some.inj ((hlast.mpr hterm).symm.trans hmeaning)
    have hnone : (valuesIn sampleTerms "TEXT").getLast? = none := by decide +kernel
    cases (hlast.mpr hfragment).symm.trans hnone
  have hnames : Template.namesOf (Pattern.piecesOf sampleLine) =
      ["NAME"] ++ "BANNER" :: ["X"] := by
    rw [Pattern.piecesOf, Template.pieces_eq_tokens]
    decide +kernel
  refine ⟨_, _, _, hterms, hterms', hmeanings, ?_, ?_, ?_, ?_⟩
  · exact ((resolves_in_two_steps hterms hmeanings "NAME").1 _).mpr hname
  · exact ((resolves_in_two_steps hterms hmeanings "HOST").1 _).mpr hhost
  · refine (resolves_in_two_steps hterms hmeanings "NAME").2.2 _ _ _ _ hterms' hmeanings rfl ?_
    intro term hterm
    have hmeaning : (valuesIn sampleMeanings "NAME").getLast? = some "HOST" := by decide +kernel
    obtain rfl := Option.some.inj ((hlast.mpr hterm).symm.trans hmeaning)
    decide +kernel
  · have htrim : Text.trim sampleLine = sampleLine := by decide +kernel
    have hcompile := (resolves_in_two_steps hterms hmeanings "BANNER").2.1 hbanner _ _ _ hnames
      (List.forall_mem_singleton.mpr ⟨_, hname⟩)
    rwa [htrim] at hcompile

end Conformance
