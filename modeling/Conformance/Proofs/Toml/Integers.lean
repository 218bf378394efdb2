import Conformance.Toml.Document
import Mathlib.Algebra.Group.Int.Defs
import Mathlib.Algebra.Group.Nat.Defs
import Mathlib.Tactic.Common

/-!
# Integers of TOML texts

Every integer that is read from a text has 64 bits: what is written is checked where a number is
read, and no number is made up by putting tables together.
-/
namespace Conformance.Toml

variable {α β : Type} {text key : String} {n : Int} {v : Value} {node : Node} {d d' : Draft}
  {ts : List Token} {dotted through : Bool} {path : List String}

theorem exists_of_mapM {f : α → Option β} {xs : List α} {ys : List β} (h : xs.mapM f = some ys) :
    ∀ y ∈ ys, ∃ x ∈ xs, f x = some y := by
  induction xs generalizing ys with
  | nil =>
    cases h
    simp
  | cons x xs ih =>
    rw [List.mapM_cons] at h
    obtain ⟨y, hy, h⟩ := Option.bind_eq_some_iff.mp h
    obtain ⟨rest, hrest, h⟩ := Option.bind_eq_some_iff.mp h
    cases h
    intro z hz
    rcases List.mem_cons.mp hz with rfl | hz
    · exact ⟨x, List.mem_cons_self, hy⟩
    · obtain ⟨x', hx', hz⟩ := ih hrest z hz
      exact ⟨x', List.mem_cons_of_mem x hx', hz⟩

/-- What every step keeps is kept by `foldlM`. -/
theorem foldlM_induction {P : β → Prop} {f : β → α → Option β} {xs : List α} {b c : β}
    (hb : P b) (hstep : ∀ b, ∀ x ∈ xs, ∀ c, P b → f b x = some c → P c)
    (h : xs.foldlM f b = some c) : P c := by
  induction xs generalizing b with
  | nil =>
    cases h
    exact hb
  | cons x xs ih =>
    rw [List.foldlM_cons] at h
    obtain ⟨b', hb', h⟩ := Option.bind_eq_some_iff.mp h
    have hnext : P b' := hstep b x List.mem_cons_self b' hb hb'
    exact ih hnext (fun b x hx => hstep b x (List.mem_cons_of_mem _ hx)) h

theorem mem_of_lookup {entries : List (String × β)} {b : β} (h : entries.lookup key = some b) :
    (key, b) ∈ entries := by
  obtain ⟨before, after, rfl, -⟩ := List.lookup_eq_some_iff.mp h
  simp

/-! ## Integers in values and tables -/

inductive Value.IsSized : Value → Prop where
  | string (s : String) : IsSized (.string s)
  | integer {n : Int} : -2 ^ 63 ≤ n → n < 2 ^ 63 → IsSized (.integer n)
  | float (text : String) : IsSized (.float text)
  | boolean (b : Bool) : IsSized (.boolean b)
  | date (text : String) : IsSized (.date text)
  | array {items : List Value} : (∀ v ∈ items, IsSized v) → IsSized (.array items)
  | table {entries : List (String × Value)} : (∀ e ∈ entries, IsSized e.2) →
    IsSized (.table entries)

inductive Node.IsSized : Node → Prop where
  | value {v : Value} : v.IsSized → IsSized (.value v)
  | table (origin : Origin) {entries : List (String × Node)} : (∀ e ∈ entries, IsSized e.2) →
    IsSized (.table origin entries)
  | elements {tables : List (List (String × Node))} : (∀ t ∈ tables, ∀ e ∈ t, IsSized e.2) →
    IsSized (.elements tables)

def Draft.IsSized (d : Draft) : Prop :=
  ∀ e ∈ d.2, e.2.IsSized

theorem Node.toValues_eq (entries : List (String × Node)) :
    toValues entries = entries.map fun e => (e.1, e.2.toValue) := by
  induction entries with
  | nil => rfl
  | cons e entries ih => rw [toValues, ih]; rfl

theorem Node.toTables_eq (tables : List (List (String × Node))) :
    toTables tables = tables.map fun t => .table (toValues t) := by
  induction tables with
  | nil => rfl
  | cons t tables ih => rw [toTables, ih]; rfl

theorem Node.IsSized.toValue (h : node.IsSized) : node.toValue.IsSized := by
  induction h with
  | value hv => exact hv
  | table origin _ ih =>
    rw [Node.toValue, toValues_eq]
    refine .table fun e he => ?_
    obtain ⟨e', he', rfl⟩ := List.mem_map.mp he
    exact ih e' he'
  | elements _ ih =>
    rw [Node.toValue, toTables_eq]
    refine .array fun v hv => ?_
    obtain ⟨t, ht, rfl⟩ := List.mem_map.mp hv
    rw [toValues_eq]
    refine .table fun e he => ?_
    obtain ⟨e', he', rfl⟩ := List.mem_map.mp he
    exact ih t ht e' he'

namespace Draft

theorem IsSized.toValue (h : d.IsSized) : d.toValue.IsSized :=
  Node.IsSized.toValue (.table d.1 h)

theorem isSized_nil (origin : Origin) : IsSized (origin, []) :=
  fun _ he => absurd he List.not_mem_nil

theorem IsSized.put (h : d.IsSized) (hnode : node.IsSized) : (d.put key node).IsSized := by
  intro e he
  rcases List.mem_append.mp he with he | he
  · exact h e (List.mem_filter.mp he).1
  · rw [List.mem_singleton.mp he]
    exact hnode

theorem IsSized.lookup (h : d.IsSized) (hkey : d.2.lookup key = some node) : node.IsSized :=
  h _ (mem_of_lookup hkey)

/-- A change of a table somewhere inside another one makes no new numbers of its own. -/
theorem IsSized.change {f : Draft → Option Draft} (h : d.IsSized)
    (hf : ∀ d d', IsSized d → f d = some d' → IsSized d')
    (hchange : Draft.change dotted f path d = some d') : d'.IsSized := by
  induction path generalizing d d' with
  | nil => exact hf d d' h hchange
  | cons key path ih =>
    rw [Draft.change] at hchange
    split at hchange
    · obtain ⟨⟨origin, entries⟩, hinner, heq⟩ := Option.bind_eq_some_iff.mp hchange
      cases heq
      exact h.put (.table origin (ih (isSized_nil _) hinner))
    · cases hchange
    · next origin entries hkey =>
      cases h.lookup hkey with
      | table _ hentries =>
        split at hchange
        · cases hchange
        · obtain ⟨⟨origin, entries⟩, hinner, heq⟩ := Option.bind_eq_some_iff.mp hchange
          cases heq
          exact h.put (.table origin (ih (d := (_, _)) hentries hinner))
    · next tables hkey =>
      cases h.lookup hkey with
      | elements htables =>
        obtain ⟨last, hlast, hchange⟩ := Option.bind_eq_some_iff.mp hchange
        obtain ⟨⟨origin, entries⟩, hinner, heq⟩ := Option.bind_eq_some_iff.mp hchange
        cases heq
        refine h.put (.elements fun t ht => ?_)
        rcases List.mem_append.mp ht with ht | ht
        · exact htables t (List.dropLast_subset _ ht)
        · rw [List.mem_singleton.mp ht]
          exact ih (d := (_, _)) (htables last (List.mem_of_getLast? hlast)) hinner

theorem IsSized.openTable (h : d.IsSized) (hopen : Draft.openTable key d = some d') :
    d'.IsSized := by
  rw [Draft.openTable] at hopen
  split at hopen
  · cases hopen
    exact h.put (.table .header (isSized_nil .header))
  · next entries hkey =>
    cases hopen
    cases h.lookup hkey with
    | table _ hentries => exact h.put (.table _ hentries)
  · cases hopen

theorem IsSized.openElement (h : d.IsSized) (hopen : Draft.openElement key d = some d') :
    d'.IsSized := by
  rw [Draft.openElement] at hopen
  split at hopen
  · cases hopen
    exact h.put (.elements (by simp))
  · next tables hkey =>
    cases hopen
    cases h.lookup hkey with
    | elements htables =>
      refine h.put (.elements fun t ht => ?_)
      rcases List.mem_append.mp ht with ht | ht
      · exact htables t ht
      · rw [List.mem_singleton.mp ht]
        exact isSized_nil .header
  · cases hopen

theorem IsSized.addEntry (h : d.IsSized) (hv : v.IsSized)
    (hadd : Draft.addEntry path v d = some d') : d'.IsSized := by
  obtain ⟨key, -, hadd⟩ := Option.bind_eq_some_iff.mp hadd
  refine h.change (fun d d' hd hvalue => ?_) hadd
  rw [addValue] at hvalue
  split at hvalue
  · cases hvalue
  · cases hvalue
    exact hd.put (.value hv)

end Draft

/-! ## Reading -/

theorem isSized_of_scalar? (h : scalar? text = some v) : v.IsSized := by
  rw [scalar?] at h
  split at h
  · cases h
    exact .boolean true
  split at h
  · cases h
    exact .boolean false
  split at h
  · cases h
    exact .date text
  split at h
  · cases h
    exact .float text
  obtain ⟨n, hn, rfl⟩ := Option.map_eq_some_iff.mp h
  have hbounds := (Option.filter_eq_some_iff.mp hn).2
  simp only [Bool.and_eq_true, decide_eq_true_eq] at hbounds
  exact .integer hbounds.1 hbounds.2

theorem isSized_of_pair? {value : List Token → Option Value}
    (hvalue : ∀ ts v, value ts = some v → v.IsSized) (h : pair? value ts = some (path, v)) :
    v.IsSized := by
  rw [pair?] at h
  split at h
  · cases h
  · obtain ⟨key, -, h⟩ := Option.bind_eq_some_iff.mp h
    obtain ⟨w, hw, h⟩ := Option.bind_eq_some_iff.mp h
    cases h
    exact hvalue _ v hw

theorem isSized_of_value? {depth : Nat} (h : value? depth ts = some v) : v.IsSized := by
  induction depth generalizing ts v with
  | zero =>
    unfold value? at h
    split at h
    · cases h
      exact .string _
    · contradiction
    · contradiction
    · obtain ⟨text, -, h⟩ := Option.bind_eq_some_iff.mp h
      exact isSized_of_scalar? h
  | succ depth ih =>
    unfold value? at h
    split at h
    · cases h
      exact .string _
    · next ts heq =>
      cases heq
      dsimp only at h
      split at h
      · cases h
      · obtain ⟨ps, -, h⟩ := Option.bind_eq_some_iff.mp h
        obtain ⟨vs, hvs, h⟩ := Option.bind_eq_some_iff.mp h
        cases h
        refine .array fun v hv => ?_
        obtain ⟨ts, -, hts⟩ := exists_of_mapM hvs v hv
        exact ih hts
    · next ts heq =>
      cases heq
      dsimp only at h
      split at h
      · cases h
      · obtain ⟨ps, -, h⟩ := Option.bind_eq_some_iff.mp h
        split at h
        · cases h
          exact .table (by simp)
        · obtain ⟨draft, hdraft, h⟩ := Option.bind_eq_some_iff.mp h
          cases h
          refine Draft.IsSized.toValue (foldlM_induction (Draft.isSized_nil .header)
            (fun d p _ d' hd h => ?_) hdraft)
          obtain ⟨⟨key, w⟩, hpair, h⟩ := Option.bind_eq_some_iff.mp h
          exact hd.addEntry (isSized_of_pair? (fun _ _ => ih) hpair) h
    · obtain ⟨text, -, h⟩ := Option.bind_eq_some_iff.mp h
      exact isSized_of_scalar? h

/-- The value of an entry, if the statement is one, has integers of 64 bits. -/
def Statement.IsSized : Statement → Prop
  | .entry _ v => v.IsSized
  | _ => True

theorem isSized_of_statement? {statement : Statement} (h : statement? ts = some (some statement)) :
    statement.IsSized := by
  unfold statement? at h
  split at h
  · cases h
  · obtain ⟨path, -, heq⟩ := Option.map_eq_some_iff.mp h
    cases heq
    trivial
  · obtain ⟨path, -, heq⟩ := Option.map_eq_some_iff.mp h
    cases heq
    trivial
  · obtain ⟨⟨key, v⟩, hpair, heq⟩ := Option.map_eq_some_iff.mp h
    cases heq
    exact isSized_of_pair? (fun _ _ => isSized_of_value?) hpair

theorem isSized_of_statements? {statements : List Statement}
    (h : statements? ts = some statements) : ∀ s ∈ statements, s.IsSized := by
  obtain ⟨lines, -, h⟩ := Option.bind_eq_some_iff.mp h
  obtain ⟨results, hresults, h⟩ := Option.bind_eq_some_iff.mp h
  cases h
  intro s hs
  obtain ⟨result, hresult, rfl⟩ := List.mem_filterMap.mp hs
  obtain ⟨line, -, hline⟩ := exists_of_mapM hresults _ hresult
  exact isSized_of_statement? hline

theorem isSized_of_add {d d' : Document} {statement : Statement} (hroot : d.root.IsSized)
    (hstatement : statement.IsSized) (h : d.add statement = some d') : d'.root.IsSized := by
  cases statement with
  | table path =>
    obtain ⟨name, -, h⟩ := Option.bind_eq_some_iff.mp h
    obtain ⟨root, hchange, h⟩ := Option.bind_eq_some_iff.mp h
    cases h
    exact hroot.change (fun _ _ hd hopen => hd.openTable hopen) hchange
  | element path =>
    obtain ⟨name, -, h⟩ := Option.bind_eq_some_iff.mp h
    obtain ⟨root, hchange, h⟩ := Option.bind_eq_some_iff.mp h
    cases h
    exact hroot.change (fun _ _ hd hopen => hd.openElement hopen) hchange
  | entry key v =>
    obtain ⟨root, hchange, h⟩ := Option.bind_eq_some_iff.mp h
    cases h
    exact hroot.change (fun _ _ hd hadd => hd.addEntry hstatement hadd) hchange

theorem isSized_of_parse? (h : parse? text = some v) : v.IsSized := by
  obtain ⟨ts, -, h⟩ := Option.bind_eq_some_iff.mp h
  obtain ⟨statements, hstatements, h⟩ := Option.bind_eq_some_iff.mp h
  obtain ⟨d, hd, h⟩ := Option.bind_eq_some_iff.mp h
  cases h
  have hsized := isSized_of_statements? hstatements
  refine Draft.IsSized.toValue (foldlM_induction (P := fun d => Draft.IsSized d.root)
    (Draft.isSized_nil .header) (fun d s hs d' hroot => ?_) hd)
  exact isSized_of_add hroot (hsized s hs)

/-! ## Fields -/

namespace Value

theorem IsSized.fields? {names : List String} {fields : List (Option Value)} (h : v.IsSized)
    (hfields : v.fields? names = some fields) : ∀ w, some w ∈ fields → w.IsSized := by
  intro w hw
  cases h with
  | array hitems =>
    cases hfields
    obtain ⟨i, -, hi⟩ := List.mem_map.mp hw
    exact hitems w (List.mem_of_getElem? hi)
  | table hentries =>
    cases hfields
    obtain ⟨name, -, hname⟩ := List.mem_map.mp hw
    exact hentries _ (mem_of_lookup hname)
  | date text =>
    cases hfields
    simp at hw
  | _ => cases hfields

theorem IsSized.count?_lt {n : Nat} (h : v.IsSized) (hn : v.count? = some n) : n < 2 ^ 63 := by
  cases h with
  | @integer m _ hlt =>
    cases m with
    | ofNat m =>
      cases hn
      exact Int.ofNat_lt.mp hlt
    | negSucc m => cases hn
  | _ => cases hn

end Value

end Conformance.Toml
