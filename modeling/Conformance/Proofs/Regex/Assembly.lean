import Conformance.Proofs.Regex.Bounds
import Conformance.Proofs.Regex.Unescaping
import Conformance.Proofs.Regex.Verbose

/-!
# Patterns put together

Quoted text and fragments in groups of their own add their pieces to the level around them, one after
the other. The pattern of a whole line holds them between its two anchors.
-/
namespace Conformance.Regex

open Reading (IsSteady Reaches)

variable {l : Level} {levels : List Level} {names : List String} {s t w : List Char} {n : Nat}

/-! ## Quoted text -/

theorem isQuiet_escapeList (hw : IsQuiet n w) (t : List Char) : IsQuiet n (escapeList t ++ w) := by
  induction t with
  | nil => exact hw
  | cons c t ih =>
    rw [escapeList]
    split
    · next hc => exact .escaped hc ih
    · next hc => exact .plain (by simpa using hc) ih

theorem isOpenEnded_escapeList {flags : Flags} (hw : IsOpenEnded flags w) (t : List Char) :
    IsOpenEnded flags (escapeList t ++ w) := by
  induction t with
  | nil => exact hw
  | cons c t ih =>
    rw [escapeList]
    split
    · next hc => exact .escaped hc ih
    · next hc => exact .plain (by simpa using hc) ih

/-- A character that stands for itself under the usual flags. -/
def charPiece (c : Char) : Piece :=
  ⟨.chars (.only c), 0, false⟩

def Level.pushAll (l : Level) (ps : List Piece) : Level :=
  { l with pieces := ps.reverse ++ l.pieces }

theorem Level.pushAll_append (l : Level) (ps qs : List Piece) :
    (l.pushAll ps).pushAll qs = l.pushAll (ps ++ qs) := by
  simp [pushAll]

/-- The text adds its pieces and names wherever it is read under the usual flags. -/
def Adds (s : List Char) (ps : List Piece) (names : List String) : Prop :=
  ∀ (l : Level) (levels : List Level) (before : List String) (w : List Char), l.flags = {} →
    (⟨l, levels, before⟩ : Reading).readAll (s ++ w) =
      (⟨l.pushAll ps, levels, names ++ before⟩ : Reading).readAll w

theorem Adds.nil : Adds [] [] [] :=
  fun _ _ _ _ _ => rfl

theorem Adds.append {ps qs : List Piece} {later : List String} (hs : Adds s ps names)
    (ht : Adds t qs later) : Adds (s ++ t) (ps ++ qs) (later ++ names) := by
  intro l levels before w hl
  rw [List.append_assoc, hs l levels before _ hl, ht (l.pushAll ps) levels _ w hl,
    Level.pushAll_append, List.append_assoc]

theorem readAll_step {r next : Reading} {c : Char} {left : List Char} (hr : r.level.flags = {})
    (hstep : r.step c s = .ok (next, left)) (hle : left.length ≤ s.length) :
    r.readAll (c :: s) = next.readAll left := by
  have hskip : r.level.flags.skip (c :: s) = c :: s := by rw [hr]; rfl
  exact (Reaches.step hskip hstep hle .refl).readAll

theorem addChar_of_flags (hl : l.flags = {}) (c : Char) : l.addChar c = l.push (charPiece c) := by
  unfold Level.addChar
  rw [hl]
  rfl

theorem adds_escapeList (t : List Char) : Adds (escapeList t) (t.map charPiece) [] := by
  induction t with
  | nil => exact .nil
  | cons c t ih =>
    intro l levels before w hl
    have hlevel : l.addChar c = l.pushAll [charPiece c] := addChar_of_flags hl c
    have hrest := ih (l.pushAll [charPiece c]) levels before w hl
    rw [Level.pushAll_append, List.singleton_append] at hrest
    rw [List.map_cons, ← hrest, escapeList]
    split
    · next hc =>
      refine readAll_step hl (s := c :: (escapeList t ++ w)) ?_ (Nat.le_succ _)
      simp only [Reading.step, readEscape_of_isMeta _ hc]
      exact congrArg (fun l => Except.ok (Reading.mk l levels before, _)) hlevel
    · next hc =>
      refine readAll_step hl ?_ (Nat.le_refl _)
      rw [Reading.step_of_notMem _ (Reading.notMem_signs (by simpa using hc))]
      exact congrArg (fun l => Except.ok (Reading.mk l levels before, _)) hlevel

/-- Quoted text is passed under all flags but verbose ones. -/
theorem exists_reaches_escapeList {r : Reading} (hr : r.level.flags.verbose = false)
    (t w : List Char) :
    ∃ l, l.flags = r.level.flags ∧ Reaches r (escapeList t ++ w) (r.withLevel l) w := by
  induction t generalizing r with
  | nil => exact ⟨r.level, rfl, .refl⟩
  | cons c t ih =>
    have hskip : ∀ s, r.level.flags.skip s = s := fun s => by rw [Flags.skip, if_neg (by simp [hr])]
    obtain ⟨l, hl, hreach⟩ := ih (r := r.withLevel (r.level.addChar c)) hr
    refine ⟨l, hl, ?_⟩
    rw [escapeList]
    split
    · next hc =>
      refine .step (hskip _) (t := c :: (escapeList t ++ w)) ?_ (Nat.le_succ _) hreach
      simp only [Reading.step, readEscape_of_isMeta _ hc]
      rfl
    · next hc =>
      exact .step (hskip _) (Reading.step_of_notMem _ (Reading.notMem_signs (by simpa using hc)) _)
        (Nat.le_refl _) hreach

/-! ## Groups -/

/-- Read by itself, the fragment comes to its end outside all groups. -/
def IsComplete (fragment : String) : Prop :=
  ∃ r, Reading.start.readAll fragment.toList = .ok r ∧ r.outer = []

def captureNames (fragment : String) : List String :=
  match Reading.start.readAll fragment.toList with
  | .ok r => r.names
  | .error _ => []

/-- A text is a pattern if it is complete and the names in it differ. -/
theorem exists_fault_iff {pattern : String} : (∃ fault, parse pattern = .error (.fault fault)) ↔
    (IsComplete pattern → ¬ (captureNames pattern).Nodup) := by
  simp only [parse_fault_iff]
  constructor
  · rintro ⟨fault, hfault⟩ ⟨r, hread, houter⟩ hnames
    rw [captureNames, hread] at hnames
    simp [readPattern, hread, Reading.finish, houter, hnames, bind, Except.bind, pure,
      Except.pure] at hfault
  · intro h
    cases hpattern : readPattern pattern with
    | error fault => exact ⟨fault, rfl⟩
    | ok piece =>
      obtain ⟨r, hread, houter, hnames, -⟩ := readPattern_ok hpattern
      refine (h ⟨r, hread, houter⟩ ?_).elim
      rwa [captureNames, hread]

/-- Read by itself, the fragment comes to an end outside all groups and comments. -/
structure IsWhole (fragment : String) (r : Reading) : Prop where
  reads : Reading.start.readAll fragment.toList = .ok r
  closed : r.outer = []
  steady : IsSteady .start fragment.toList

def groupPiece (r : Reading) : Piece :=
  ⟨r.level.close.expr, r.level.close.depth + 1, false⟩

theorem readAll_openGroup (r : Reading) (s : List Char) :
    r.readAll ('(' :: '?' :: ':' :: s) = (r.openGroup r.level.flags).readAll s := by
  have hskip : ∀ {c : Char}, c ∈ ['(', '?'] → ∀ t, r.level.flags.skip (c :: t) = c :: t := by
    intro c hc t
    simp only [List.mem_cons, List.not_mem_nil, or_false] at hc
    rcases hc with rfl | rfl <;> exact skip_cons _ (by decide) (by decide) t
  have hstep : r.step '(' ('?' :: ':' :: s) = .ok (r.openGroup r.level.flags, s) := by
    show r.readGroup ('?' :: ':' :: s) = _
    rw [Reading.readGroup, hskip (by decide)]
    rfl
  exact (Reaches.step (hskip (by decide) _) hstep (by simp only [List.length_cons]; omega)
    .refl).readAll

theorem readAll_closeGroup (k l : Level) (levels : List Level) (names : List String)
    (s : List Char) : (⟨k, l :: levels, names⟩ : Reading).readAll (')' :: s) =
      (⟨l.push ⟨k.close.expr, k.close.depth + 1, false⟩, levels, names⟩ : Reading).readAll s :=
  (Reaches.step (skip_paren k.flags s) rfl (Nat.le_refl _) .refl).readAll

/-- A whole fragment in a group of its own adds one piece, and its names. -/
theorem IsWhole.adds {fragment : String} {r : Reading} (h : IsWhole fragment r) :
    Adds ('(' :: '?' :: ':' :: (fragment.toList ++ [')'])) [groupPiece r] r.names := by
  intro l levels before w hl
  have houter : r.inside (l :: levels) before = ⟨r.level, l :: levels, r.names ++ before⟩ := by
    rw [Reading.inside, h.closed]
    rfl
  have htext : '(' :: '?' :: ':' :: (fragment.toList ++ [')']) ++ w =
      '(' :: '?' :: ':' :: (fragment.toList ++ ')' :: w) := by simp
  have hgroup : (⟨l, levels, before⟩ : Reading).openGroup l.flags =
      Reading.start.inside (l :: levels) before := by
    rw [hl]
    rfl
  rw [htext, readAll_openGroup, hgroup, Reading.readAll_inside h.steady h.reads, houter,
    readAll_closeGroup]
  rfl

/-! ## Sequences -/

theorem expr_joinPieces (ps : List Piece) :
    (joinPieces ps).expr = .ofSeq (ps.reverse.map Piece.expr) := by
  unfold joinPieces
  split <;> rfl

theorem expr_close_pushAll (ps : List Piece) :
    ((Level.start {}).pushAll ps).close.expr = .ofSeq (ps.map Piece.expr) := by
  show (joinPieces (ps.reverse ++ [])).expr = _
  rw [expr_joinPieces, List.append_nil, List.reverse_reverse]

variable {text : Array Char} {es : List Expr} {i j k : Nat}

def SpanAll (text : Array Char) : List Expr → Nat → Nat → Prop
  | [], i, j => i = j
  | e :: es, i, k => ∃ j, Span text e i j ∧ SpanAll text es j k

theorem span_ofSeq : Span text (.ofSeq es) i j ↔ SpanAll text es i j := by
  induction es generalizing i with
  | nil =>
    constructor
    · rintro ⟨⟩
      rfl
    · rintro rfl
      exact .empty
  | cons e es ih =>
    cases es with
    | nil =>
      constructor
      · exact fun h => ⟨j, h, rfl⟩
      · rintro ⟨k, h, rfl⟩
        exact h
    | cons e' es =>
      constructor
      · rintro ⟨⟩
        next k hfirst hrest => exact ⟨k, hfirst, ih.mp hrest⟩
      · rintro ⟨k, hfirst, hrest⟩
        exact .seq hfirst (ih.mpr hrest)

theorem spanAll_append {fs : List Expr} :
    SpanAll text (es ++ fs) i k ↔ ∃ j, SpanAll text es i j ∧ SpanAll text fs j k := by
  induction es generalizing i with
  | nil => simp [SpanAll]
  | cons e es ih =>
    simp only [List.cons_append, SpanAll, ih]
    constructor
    · rintro ⟨m, hfirst, j, hes, hfs⟩
      exact ⟨j, ⟨m, hfirst, hes⟩, hfs⟩
    · rintro ⟨j, ⟨m, hfirst, hes⟩, hfs⟩
      exact ⟨m, hfirst, j, hes, hfs⟩

theorem span_only {c : Char} :
    Span text (.chars (.only c)) i j ↔ text[i]? = some c ∧ j = i + 1 := by
  constructor
  · intro h
    cases h with
    | chars hget hset =>
      rw [CharSet.contains_only, beq_iff_eq] at hset
      exact ⟨hset ▸ hget, rfl⟩
  · rintro ⟨hget, rfl⟩
    exact .chars hget (by rw [CharSet.contains_only, beq_self_eq_true])

theorem extract_eq_cons {c : Char} {t : List Char} (hi : i < text.size) (hij : i < j) :
    text.extract i j = (c :: t).toArray ↔
      text[i]? = some c ∧ text.extract (i + 1) j = t.toArray := by
  have hlength : i < text.toList.length := hi
  have hrest : j - i = (j - (i + 1)) + 1 := by omega
  simp only [← Array.toList_inj, Array.toList_extract, List.extract_eq_take_drop]
  rw [List.drop_eq_getElem_cons hlength, hrest, List.take_succ_cons, List.cons.injEq,
    Array.getElem?_eq_getElem hi, Option.some.injEq, Array.getElem_toList]

theorem spanAll_chars {t : List Char} (hi : i ≤ text.size) :
    SpanAll text (t.map fun c => .chars (.only c)) i j ↔
      i ≤ j ∧ j ≤ text.size ∧ text.extract i j = t.toArray := by
  induction t generalizing i with
  | nil =>
    constructor
    · rintro rfl
      refine ⟨Nat.le_refl i, hi, Array.eq_empty_of_size_eq_zero ?_⟩
      rw [Array.size_extract]
      omega
    · rintro ⟨hij, hj, hextract⟩
      have hsize := congrArg Array.size hextract
      simp only [Array.size_extract, List.size_toArray, List.length_nil] at hsize
      show i = j
      omega
  | cons c t ih =>
    simp only [List.map_cons, SpanAll, span_only]
    constructor
    · rintro ⟨m, ⟨hget, rfl⟩, hrest⟩
      obtain ⟨hlt, -⟩ := Array.getElem?_eq_some_iff.mp hget
      obtain ⟨hij, hj, hextract⟩ := (ih hlt).mp hrest
      exact ⟨by omega, hj, (extract_eq_cons hlt hij).mpr ⟨hget, hextract⟩⟩
    · rintro ⟨hij, hj, hextract⟩
      have hlt : i < j := by
        have hsize := congrArg Array.size hextract
        simp only [Array.size_extract, List.size_toArray, List.length_cons] at hsize
        omega
      have hi' : i < text.size := Nat.lt_of_lt_of_le hlt hj
      obtain ⟨hget, hrest⟩ := (extract_eq_cons hi' hlt).mp hextract
      exact ⟨i + 1, ⟨hget, rfl⟩, (ih hi').mpr ⟨hlt, hj, hrest⟩⟩

end Conformance.Regex
