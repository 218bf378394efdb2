import Conformance.Proofs.Regex.Escaped
import Conformance.Regex.Class

/-!
# Classes and what follows them
-/
namespace Conformance.Regex

variable {flags : Flags} {s t rest : List Char} {c : Char}

theorem head?_append_paren {d : Char} (hd : d ≠ ')') (s w : List Char) :
    ((s ++ ')' :: w).head? == some d) = (s.head? == some d) := by
  cases s with
  | nil => simpa using Ne.symm hd
  | cons c s => rfl

theorem head?_passed {d : Char} (hd : d ∈ [']', '-']) (hc : Text.isBlank c = true ∨ c = '#') :
    ((c :: s).head? == some d) = false := by
  refine beq_eq_false_iff_ne.mpr fun heq => ?_
  obtain rfl : c = d := Option.some.inj heq
  simp only [List.mem_cons, List.not_mem_nil, or_false] at hd
  rcases hd with rfl | rfl <;> exact absurd hc (by decide)

/-- A parenthesis behind the text is not taken for the end of a class, nor for a hyphen. -/
theorem peekPast_append {d : Char} (hd : d ∈ [']', '-']) (flags : Flags) (s w : List Char) :
    (peekPast flags (s ++ ')' :: w) == some d) = (peekPast flags s == some d) := by
  have hparen : d ≠ ')' := by
    rintro rfl
    exact absurd hd (by decide)
  have hstop : (some ')' == some d) = false := beq_eq_false_iff_ne.mpr (by simpa using hparen.symm)
  have hblank : Text.isBlank ')' = false := by decide
  -- Where only blanks and the sign of a comment stand before the parenthesis, `d` does not.
  have hhead : s = [] ∨ (∃ c t, s = c :: t ∧ (Text.isBlank c = true ∨ c = '#')) →
      (s.head? == some d) = false := by
    rintro (rfl | ⟨c, t, rfl, hc⟩)
    · rfl
    · exact head?_passed hd hc
  rw [peekPast, peekPast]
  split
  · rw [dropWhile_append_paren hblank]
    cases hdrop : s.dropWhile Text.isBlank with
    | nil =>
      refine hstop.trans (hhead ?_).symm
      cases s with
      | nil => exact .inl rfl
      | cons c t =>
        refine .inr ⟨c, t, rfl, .inl (by_contra fun hc => ?_)⟩
        rw [List.dropWhile_cons_of_neg hc] at hdrop
        cases hdrop
    | cons x t =>
      by_cases hcomment : x = '#'
      · subst hcomment
        show ((((t ++ ')' :: w).dropWhile Text.isBlank).head?.or _) == some d) =
          (((t.dropWhile Text.isBlank).head?.or s.head?) == some d)
        rw [dropWhile_append_paren hblank]
        cases t.dropWhile Text.isBlank with
        | cons y u => rfl
        | nil =>
          refine hstop.trans (hhead ?_).symm
          cases s with
          | nil => cases hdrop
          | cons c u =>
            refine .inr ⟨c, u, rfl, or_iff_not_imp_left.mpr fun hc => ?_⟩
            rw [List.dropWhile_cons_of_neg hc] at hdrop
            exact (List.cons.inj hdrop).1
      · simp only [List.cons_append]
  · exact head?_append_paren hparen s w

theorem isLocal_readItem (flags : Flags) : IsLocal flags (readItem flags) := by
  intro s a rest hcalm hread
  cases s with
  | nil => cases hread
  | cons c t =>
    have htail := List.suffix_cons c t
    rw [readItem.eq_def] at hread
    split at hread
    · next heq => cases heq
    · next heq =>
      cases heq
      exact (isLocal_readEscape flags (hcalm.suffix htail) hread).imp_left (·.trans htail)
    · next d u hslash heq =>
      cases heq
      cases hread
      refine ⟨htail, fun w => ?_⟩
      rw [List.cons_append, readItem]
      exact hslash

theorem isLocal_readRange (flags : Flags) (first : Atom) :
    IsLocal flags (readRange flags first) := by
  intro s a rest hcalm hread
  have hskip := skip_suffix flags s
  unfold readRange at hread ⊢
  split at hread
  · cases hread
  · next c after heq =>
    rw [heq] at hskip
    have hafter := (List.suffix_cons c after).trans hskip
    simp only [skip_append hcalm, heq, List.cons_append, peekPast_append (d := ']') (by decide),
      peekPast_append (d := '-') (by decide), skip_append (hcalm.suffix hafter)]
    dsimp only at hread
    split at hread
    · next halone =>
      obtain ⟨set, hset, hread⟩ := Except.bind_eq_ok.mp hread
      cases hread
      exact ⟨hskip, fun w => (if_pos halone).trans (Except.bind_eq_ok.mpr ⟨a, hset, rfl⟩)⟩
    · next hrange =>
      obtain ⟨⟨last, left⟩, hlast, hread⟩ := Except.bind_eq_ok.mp hread
      obtain ⟨set, hset, hread⟩ := Except.bind_eq_ok.mp hread
      cases hread
      have hrest := (skip_suffix flags after).trans hafter
      obtain ⟨hsuffix, hagain⟩ := isLocal_readItem flags (hcalm.suffix hrest) hlast
      exact ⟨hsuffix.trans hrest, fun w => (if_neg hrange).trans
        (Except.bind_eq_ok.mpr ⟨_, hagain w, Except.bind_eq_ok.mpr ⟨a, hset, rfl⟩⟩)⟩

theorem isLocal_readMember (flags : Flags) : IsLocal flags (readMember flags) := by
  intro s a rest hcalm hread
  obtain ⟨⟨first, left⟩, hfirst, hread⟩ := Except.bind_eq_ok.mp hread
  obtain ⟨hleft, hagain⟩ := isLocal_readItem flags hcalm hfirst
  obtain ⟨hsuffix, hagain'⟩ := isLocal_readRange flags first (hcalm.suffix hleft) hread
  exact ⟨hsuffix.trans hleft, fun w => Except.bind_eq_ok.mpr ⟨_, hagain w, hagain' w⟩⟩

theorem paren_not_mem_of_namedClass? {name : List Char} {set : CharSet}
    (h : namedClass? name = some set) : ')' ∉ name := by
  have hname : ∀ {text : String}, String.ofList name = text → ')' ∉ text.toList → ')' ∉ name := by
    rintro text rfl hmem
    rwa [String.toList_ofList] at hmem
  unfold namedClass? at h
  split at h
  case h_15 => cases h
  all_goals next heq => exact hname heq (by decide)

theorem readClassName?_append (negated : Bool) (s w : List Char) :
    readClassName? negated (s ++ ')' :: w) =
      (readClassName? negated s).map fun (b, set, rest) => (b, set, rest ++ ')' :: w) := by
  rw [readClassName?, readClassName?, List.dropWhile_append, List.takeWhile_append]
  cases hdrop : s.dropWhile (· != ':') with
  | nil =>
    have htake : s.takeWhile (· != ':') = s := by
      have happend := List.takeWhile_append_dropWhile (p := (· != ':')) (l := s)
      rwa [hdrop, List.append_nil] at happend
    simp only [List.isEmpty_nil, if_true, htake]
    split
    · refine Option.map_eq_none_iff.mpr (Option.eq_none_iff_forall_ne_some.mpr fun set hset => ?_)
      refine paren_not_mem_of_namedClass? hset (List.mem_append_right _ ?_)
      exact List.mem_cons_self
    · rfl
  | cons c t =>
    have htake : (s.takeWhile (· != ':')).length ≠ s.length := by
      have happend := congrArg List.length
        (List.takeWhile_append_dropWhile (p := (· != ':')) (l := s))
      rw [hdrop, List.length_append, List.length_cons] at happend
      omega
    rw [if_neg htake, List.isEmpty_cons, if_neg Bool.false_ne_true]
    split
    · next rest heq =>
      obtain ⟨rfl, hbracket⟩ := List.cons.inj heq
      obtain ⟨u, rfl, rfl⟩ := eq_cons_of_append_paren (by decide) hbracket
      show _ = ((namedClass? _).map _).map _
      rw [Option.map_map]
      rfl
    · next hopen =>
      split
      · next rest heq => exact absurd (congrArg (· ++ ')' :: w) heq) (hopen _)
      · rfl

theorem readNamed?_append (s w : List Char) : readNamed? (s ++ ')' :: w) =
    (readNamed? s).map fun (b, set, rest) => (b, set, rest ++ ')' :: w) := by
  unfold readNamed?
  split
  · next t heq =>
    obtain ⟨u, rfl, hu⟩ := eq_cons_of_append_paren (by decide) heq
    obtain ⟨v, rfl, rfl⟩ := eq_cons_of_append_paren (by decide) hu.symm
    exact readClassName?_append true v w
  · next t hplain heq =>
    obtain ⟨u, rfl, rfl⟩ := eq_cons_of_append_paren (by decide) heq
    split
    · next v heq' =>
      obtain rfl := (List.cons.inj heq').2
      exact (hplain (v ++ ')' :: w) rfl).elim
    · next v _ heq' =>
      obtain rfl := (List.cons.inj heq').2
      exact readClassName?_append false _ w
    · next hnone => exact (hnone u rfl).elim
  · next hplain hnone =>
    split
    · exact (hplain _ rfl).elim
    · exact (hnone _ rfl).elim
    · rfl

theorem hyphens_suffix (flags : Flags) (n : Nat) (s : List Char) :
    (hyphens flags n s).2 <:+ s := by
  fun_induction hyphens flags n s with
  | case1 n s k rest heq ih =>
    rw [heq] at ih
    exact (ih.trans (skip_suffix flags s)).trans (List.suffix_cons '-' s)
  | case2 => exact List.suffix_rfl

theorem hyphens_append (w : List Char) {n m : Nat} (hcalm : IsCalm flags s) (hn : s.length ≤ n)
    (hm : s.length ≤ m) : hyphens flags m (s ++ ')' :: w) =
      ((hyphens flags n s).1, (hyphens flags n s).2 ++ ')' :: w) := by
  induction n generalizing s m with
  | zero =>
    obtain rfl := List.eq_nil_of_length_eq_zero (Nat.le_zero.mp hn)
    cases m <;> rfl
  | succ n ih =>
    cases s with
    | nil => cases m <;> rfl
    | cons c t =>
      rw [List.length_cons] at hn hm
      obtain ⟨m, rfl⟩ : ∃ k, m = k + 1 := ⟨m - 1, by omega⟩
      by_cases hc : c = '-'
      · subst hc
        have ht := hcalm.suffix (List.suffix_cons '-' t)
        have hlength := flags.length_skip t
        have hskip := ih (ht.suffix (skip_suffix flags t)) (by omega) (m := m) (by omega)
        rw [List.cons_append, hyphens, hyphens, skip_append ht, hskip]
      · have hnone : ∀ k u, hyphens flags (k + 1) (c :: u) = (0, c :: u) := fun k u => by
          rw [hyphens]
          exact fun _ _ _ heq => hc (List.cons.inj heq).1
        rw [List.cons_append, hnone, hnone]
        rfl

theorem openMembers_ok (flags : Flags) (negated : Bool) (hcalm : IsCalm flags s) :
    (openMembers flags negated s).2 <:+ s ∧
      ∀ w, openMembers flags negated (s ++ ')' :: w) =
        ((openMembers flags negated s).1, (openMembers flags negated s).2 ++ ')' :: w) := by
  have hsuffix := hyphens_suffix flags s.length s
  have happend : ∀ w, hyphens flags (s ++ ')' :: w).length (s ++ ')' :: w) = _ :=
    fun w => hyphens_append w hcalm (Nat.le_refl _) (by rw [List.length_append]; omega)
  simp only [openMembers, happend]
  split
  · next t heq =>
    rw [heq] at hsuffix
    have ht := (List.suffix_cons ']' t).trans hsuffix
    simp only [heq, List.cons_append, skip_append (hcalm.suffix ht), implies_true, and_true]
    exact (skip_suffix flags t).trans ht
  · next count t hplain heq =>
    rw [heq] at hsuffix
    refine ⟨hsuffix, fun w => ?_⟩
    simp only [heq]
    split
    · next u hu =>
      obtain ⟨rfl, hbracket⟩ := Prod.mk.inj hu
      obtain ⟨v, rfl, -⟩ := eq_cons_of_append_paren (by decide) hbracket
      exact (hplain v rfl rfl).elim
    · next hu =>
      obtain ⟨rfl, rfl⟩ := Prod.mk.inj hu
      rfl

theorem openClass_ok (hcalm : IsCalm flags s) :
    (openClass flags s).2 <:+ s ∧ ∀ w, openClass flags (s ++ ')' :: w) =
      ((openClass flags s).1, (openClass flags s).2 ++ ')' :: w) := by
  have hskip := skip_suffix flags s
  simp only [openClass, skip_append hcalm]
  split
  · next t heq =>
    have ht := (List.suffix_cons '^' t).trans (heq ▸ hskip)
    have hopen := (skip_suffix flags t).trans ht
    simp only [heq, List.cons_append, skip_append (hcalm.suffix ht)]
    exact (openMembers_ok flags true (hcalm.suffix hopen)).imp_left (·.trans hopen)
  · next hplain =>
    obtain ⟨hsuffix, hagain⟩ := openMembers_ok flags false (hcalm.suffix hskip)
    refine ⟨hsuffix.trans hskip, fun w => ?_⟩
    split
    · next u heq =>
      obtain ⟨v, hv, -⟩ := eq_cons_of_append_paren (by decide) heq
      exact (hplain v hv).elim
    · exact hagain w

theorem readNamed?_suffix {negated : Bool} {set : CharSet}
    (h : readNamed? s = some (negated, set, rest)) : rest <:+ s := by
  have hname : ∀ {b t}, readClassName? b t = some (negated, set, rest) → rest <:+ t := by
    intro b t h
    unfold readClassName? at h
    split at h
    · next left heq =>
      obtain ⟨set', -, hset⟩ := Option.map_eq_some_iff.mp h
      cases hset
      have hsuffix := List.dropWhile_suffix (l := t) (· != ':')
      rw [heq] at hsuffix
      exact ((List.suffix_cons _ _).trans (List.suffix_cons _ _)).trans hsuffix
    · cases h
  unfold readNamed? at h
  split at h
  · exact ((hname h).trans (List.suffix_cons _ _)).trans (List.suffix_cons _ _)
  · exact (hname h).trans (List.suffix_cons _ _)
  · cases h

theorem readOn_ok {inner : OpenClass} {outer : List OpenClass} {a : ClassReading}
    (hcalm : IsCalm flags (c :: s)) (h : readOn flags inner outer c s = .ok (a, rest)) :
    rest <:+ c :: s ∧
      ∀ w, readOn flags inner outer c (s ++ ')' :: w) = .ok (a, rest ++ ')' :: w) := by
  have htail := List.suffix_cons c s
  have hsign : ∀ {d : Char}, (c == d && s.head? == some d) = true →
      s.drop 1 <:+ c :: s ∧ ∀ w, (s ++ ')' :: w).drop 1 = s.drop 1 ++ ')' :: w := by
    intro d hd
    refine ⟨(List.drop_suffix 1 s).trans htail, fun w => ?_⟩
    rw [Bool.and_eq_true, beq_iff_eq, beq_iff_eq] at hd
    cases s with
    | nil => cases hd.2
    | cons x t => rfl
  unfold readOn at h ⊢
  simp only [head?_append_paren (d := '&') (by decide), head?_append_paren (d := '-') (by decide),
    head?_append_paren (d := '~') (by decide), readNamed?_append]
  by_cases hopen : c == '['
  · simp only [if_pos hopen] at h ⊢
    cases hnamed : readNamed? s with
    | some found =>
      obtain ⟨negated, set, left⟩ := found
      rw [hnamed] at h
      obtain ⟨set', hset, h⟩ := Except.bind_eq_ok.mp h
      cases h
      exact ⟨(readNamed?_suffix hnamed).trans htail, fun w => Except.bind_eq_ok.mpr ⟨_, hset, rfl⟩⟩
    | none =>
      rw [hnamed] at h
      obtain ⟨hsuffix, hagain⟩ := openClass_ok (hcalm.suffix htail)
      cases h
      refine ⟨hsuffix.trans htail, fun w => ?_⟩
      simp only [Option.map_none, hagain]
  simp only [if_neg hopen] at h ⊢
  by_cases hclose : c == ']'
  · simp only [if_pos hclose] at h ⊢
    obtain ⟨set, hset, h⟩ := Except.bind_eq_ok.mp h
    cases outer with
    | nil =>
      cases h
      exact ⟨htail, fun w => Except.bind_eq_ok.mpr ⟨_, hset, rfl⟩⟩
    | cons k ks =>
      cases h
      exact ⟨htail, fun w => Except.bind_eq_ok.mpr ⟨_, hset, rfl⟩⟩
  simp only [if_neg hclose] at h ⊢
  by_cases hboth : (c == '&' && s.head? == some '&') = true
  · simp only [if_pos hboth] at h ⊢
    cases h
    exact (hsign hboth).imp_right fun hdrop w => by rw [hdrop]
  simp only [if_neg hboth] at h ⊢
  by_cases hless : (c == '-' && s.head? == some '-') = true
  · simp only [if_pos hless] at h ⊢
    cases h
    exact (hsign hless).imp_right fun hdrop w => by rw [hdrop]
  simp only [if_neg hless] at h ⊢
  by_cases hdiffering : (c == '~' && s.head? == some '~') = true
  · simp only [if_pos hdiffering] at h ⊢
    cases h
    exact (hsign hdiffering).imp_right fun hdrop w => by rw [hdrop]
  simp only [if_neg hdiffering] at h ⊢
  obtain ⟨⟨set, left⟩, hmember, h⟩ := Except.bind_eq_ok.mp h
  cases h
  obtain ⟨hsuffix, hagain⟩ := isLocal_readMember flags hcalm hmember
  exact ⟨hsuffix, fun w => Except.bind_eq_ok.mpr ⟨_, hagain w, rfl⟩⟩

theorem readMembers_eq (flags : Flags) (inner : OpenClass) (outer : List OpenClass)
    (s : List Char) : readMembers flags inner outer s =
      (match flags.skip s with
      | [] => .error .unclosedClass
      | c :: rest => do
        let (reading, left) ← readOn flags inner outer c rest
        match reading with
        | .done set depth => return (set, depth, left)
        | .within inner outer =>
          if left.length ≤ rest.length then readMembers flags inner outer left
          else throw .stuck) := by
  rw [readMembers]
  split
  · next h => simp only [h]
  · next c rest h =>
    dsimp only
    generalize flags.skip s = u at h ⊢
    subst h
    rfl

theorem readMembers_ok {set : CharSet} {depth : Nat} {inner : OpenClass} {outer : List OpenClass}
    (hcalm : IsCalm flags s) (h : readMembers flags inner outer s = .ok (set, depth, rest)) :
    rest <:+ s ∧ ∀ w, readMembers flags inner outer (s ++ ')' :: w) =
      .ok (set, depth, rest ++ ')' :: w) := by
  induction hlength : s.length using Nat.strongRecOn generalizing s inner outer with
  | _ n ih =>
    have hskip := skip_suffix flags s
    rw [readMembers_eq] at h
    simp only [readMembers_eq flags inner outer (s ++ _), skip_append hcalm]
    split at h
    · cases h
    · next c t heq =>
      rw [heq] at hskip
      obtain ⟨⟨reading, left⟩, hon, h⟩ := Except.bind_eq_ok.mp h
      obtain ⟨hleft, hagain⟩ := readOn_ok (hcalm.suffix hskip) hon
      simp only [heq, List.cons_append, hagain]
      cases reading with
      | done set' depth' =>
        cases h
        exact ⟨hleft.trans hskip, fun w => rfl⟩
      | within inner' outer' =>
        dsimp only at h
        split at h
        · next hle =>
          have hlt : left.length < n := by
            have hshort := hskip.length_le
            rw [List.length_cons] at hshort
            omega
          have hsuffix := hleft.trans hskip
          obtain ⟨hrest, hagain'⟩ := ih left.length hlt (hcalm.suffix hsuffix) h rfl
          refine ⟨hrest.trans hsuffix, fun w => ?_⟩
          have hle' : (left ++ ')' :: w).length ≤ (t ++ ')' :: w).length := by
            simp only [List.length_append]
            omega
          exact (if_pos hle').trans (hagain' w)
        · cases h

theorem readClass_ok {set : CharSet} {depth : Nat} (hcalm : IsCalm flags s)
    (h : readClass flags s = .ok (set, depth, rest)) :
    rest <:+ s ∧ ∀ w, readClass flags (s ++ ')' :: w) = .ok (set, depth, rest ++ ')' :: w) := by
  obtain ⟨hopen, happend⟩ := openClass_ok hcalm
  obtain ⟨hsuffix, hagain⟩ := readMembers_ok (hcalm.suffix hopen) h
  refine ⟨hsuffix.trans hopen, fun w => ?_⟩
  rw [readClass, happend]
  exact hagain w

/-! ## Classes that are left open -/

/-- Text that ends no class: literal text, and parts without closing brackets, each with a closing
parenthesis behind it. -/
inductive IsOpenEnded (flags : Flags) : List Char → Prop where
  | nil : IsOpenEnded flags []
  | plain {c : Char} {s : List Char} : isMeta c = false → IsOpenEnded flags s →
    IsOpenEnded flags (c :: s)
  | escaped {c : Char} {s : List Char} : isMeta c = true → IsOpenEnded flags s →
    IsOpenEnded flags ('\\' :: c :: s)
  | sign {c : Char} {s : List Char} : c = '$' ∨ c = ')' → IsOpenEnded flags s →
    IsOpenEnded flags (c :: s)
  | part {c : Char} {u s : List Char} : ']' ∉ c :: u → IsCalm flags (c :: u) →
    IsOpenEnded flags s → IsOpenEnded flags (c :: (u ++ ')' :: s))

theorem IsOpenEnded.append (hs : IsOpenEnded flags s) (ht : ']' ∉ t) (hcalm : IsCalm flags t) :
    IsOpenEnded flags (t ++ ')' :: s) := by
  cases t with
  | nil => exact .sign (.inr rfl) hs
  | cons c u => exact .part ht hcalm hs

theorem IsOpenEnded.skip (h : IsOpenEnded flags s) : IsOpenEnded flags (flags.skip s) := by
  have hverbose : ∀ {s}, flags.verbose = true → IsOpenEnded flags s →
      IsOpenEnded flags (skipVerbose s) := by
    intro s hflags h
    fun_induction skipVerbose s with
    | case1 => exact h
    | case2 c rest hblank ih =>
      cases h with
      | plain _ hrest => exact ih hrest
      | escaped => exact absurd hblank (by decide)
      | sign hc => rcases hc with rfl | rfl <;> exact absurd hblank (by decide)
      | part hu hcalm hs =>
        rw [List.mem_cons, not_or] at hu
        exact ih (hs.append hu.2 (hcalm.suffix (List.suffix_cons _ _)))
    | case3 c rest _ hcomment ih =>
      cases h with
      | plain hc _ =>
        rw [beq_iff_eq.mp hcomment] at hc
        exact absurd hc (by decide)
      | escaped => exact absurd hcomment (by decide)
      | sign hc => rcases hc with rfl | rfl <;> exact absurd hcomment (by decide)
      | @part _ u s hu hcalm hs =>
        have hends := hcalm hflags
        rw [endsComments, Bool.and_eq_true] at hends
        have hend : '\n' ∈ u := by simpa [hcomment, bne] using hends.1
        have hdrop := dropLine_suffix u
        rw [dropLine_append hend] at ih ⊢
        exact ih (hs.append (fun hmem => hu (List.mem_cons_of_mem _ (hdrop.subset hmem)))
          (hcalm.suffix (hdrop.trans (List.suffix_cons _ _))))
    | case4 => exact h
  rw [Flags.skip]
  split
  · next hflags => exact hverbose hflags h
  · exact h

theorem escaped_of_isMeta (flags : Flags) (hc : isMeta c = true) :
    escaped flags c = .ok (.char c) := by
  have hmem : c ∈ "\\.+*?()|[]\x7b\x7d^$#&-~".toList := List.contains_iff_mem.mp hc
  rw [toList_literal rfl] at hmem
  simp only [List.mem_cons, List.not_mem_nil, or_false] at hmem
  rcases hmem with rfl | rfl | rfl | rfl | rfl | rfl | rfl | rfl | rfl | rfl | rfl | rfl | rfl |
    rfl | rfl | rfl | rfl | rfl <;> rfl

theorem readEscape_of_isMeta (flags : Flags) (hc : isMeta c = true) (s : List Char) :
    readEscape flags (c :: s) = .ok (.char c, s) := by
  have hne : ∀ {d : Char}, isMeta d = false → c ≠ d := by
    rintro d hd rfl
    rw [hd] at hc
    cases hc
  rw [readEscape, escaped_of_isMeta flags hc]
  · rfl
  all_goals exact hne (by decide)

/-- The characters that by themselves begin, end, join or range something in a class. -/
def classSigns : List Char :=
  ['[', ']', '-', '&', '~']

theorem ne_of_isMeta {d : Char} (hd : d ∈ classSigns) (hc : isMeta c = false) : c ≠ d := by
  rintro rfl
  simp only [classSigns, List.mem_cons, List.not_mem_nil, or_false] at hd
  rcases hd with rfl | rfl | rfl | rfl | rfl <;> exact absurd hc (by decide)

theorem readRange_alone {first : Atom} {set : CharSet} {after : List Char}
    (hskip : flags.skip s = c :: after) (hc : c ≠ '-')
    (h : readRange flags first s = .ok (set, rest)) : rest = c :: after := by
  unfold readRange at h
  rw [hskip] at h
  dsimp only at h
  rw [if_pos (by simp [hc])] at h
  obtain ⟨set', -, h⟩ := Except.bind_eq_ok.mp h
  cases h
  rfl

theorem readRange_skip (flags : Flags) (first : Atom) (s : List Char) :
    readRange flags first (flags.skip s) = readRange flags first s := by
  rw [readRange, readRange, skip_skip]

theorem readItem_reflect {w : List Char} {a : Atom} (hcalm : IsCalm flags s)
    (h : readItem flags (s ++ ')' :: w) = .ok (a, rest)) :
    (∃ left, readItem flags s = .ok (a, left)) ∨ rest = w := by
  cases s with
  | nil =>
    cases h
    exact .inr rfl
  | cons c t =>
    rw [List.cons_append, readItem.eq_def] at h
    split at h
    · next heq => cases heq
    · next heq =>
      cases heq
      refine (readEscape_reflect (hcalm.suffix (List.suffix_cons _ t)) h).imp_right fun hagain => ?_
      cases h.symm.trans (hagain w)
      rfl
    · next hslash heq =>
      cases heq
      cases h
      exact .inl ⟨t, by rw [readItem]; exact hslash⟩

theorem readRange_reflect {w : List Char} {first : Atom} {set : CharSet}
    (hcalm : IsCalm flags s) (hw : IsOpenEnded flags w)
    (h : readRange flags first (s ++ ')' :: w) = .ok (set, rest)) :
    (∃ left, readRange flags first s = .ok (set, left)) ∨ IsOpenEnded flags rest := by
  have hskip := skip_suffix flags s
  cases hs : flags.skip s with
  | nil =>
    -- The parenthesis ends what may be a range, so the member stands alone.
    refine .inr ?_
    unfold readRange at h
    rw [skip_append hcalm, hs] at h
    obtain ⟨set', -, h⟩ := Except.bind_eq_ok.mp h
    cases h
    exact .sign (.inr rfl) hw
  | cons c after =>
    rw [hs] at hskip
    have hafter := (List.suffix_cons c after).trans hskip
    simp only [readRange, skip_append hcalm, hs, List.cons_append,
      peekPast_append (d := ']') (by decide), peekPast_append (d := '-') (by decide),
      skip_append (hcalm.suffix hafter)] at h ⊢
    split at h
    · next halone =>
      obtain ⟨set', hset, h⟩ := Except.bind_eq_ok.mp h
      cases h
      exact .inl ⟨_, (if_pos halone).trans (Except.bind_eq_ok.mpr ⟨set, hset, rfl⟩)⟩
    · next hrange =>
      obtain ⟨⟨last, left⟩, hlast, h⟩ := Except.bind_eq_ok.mp h
      obtain ⟨set', hset, h⟩ := Except.bind_eq_ok.mp h
      cases h
      rcases readItem_reflect (hcalm.suffix ((skip_suffix flags after).trans hafter)) hlast with
        ⟨left', hleft⟩ | rfl
      · exact .inl ⟨left', (if_neg hrange).trans
          (Except.bind_eq_ok.mpr ⟨_, hleft, Except.bind_eq_ok.mpr ⟨set, hset, rfl⟩⟩)⟩
      · exact .inr hw

theorem readRange_openEnded {first : Atom} {set : CharSet} (hs : IsOpenEnded flags s)
    (h : readRange flags first s = .ok (set, rest)) : IsOpenEnded flags rest := by
  have hskip := hs.skip
  cases heq : flags.skip s with
  | nil =>
    unfold readRange at h
    rw [heq] at h
    cases h
  | cons c after =>
    rw [heq] at hskip
    cases hskip with
    | plain hc _ =>
      rw [readRange_alone heq (ne_of_isMeta (by decide) hc) h]
      exact heq ▸ hs.skip
    | escaped =>
      rw [readRange_alone heq (by decide) h]
      exact heq ▸ hs.skip
    | sign hc =>
      rw [readRange_alone heq (by rcases hc with rfl | rfl <;> decide) h]
      exact heq ▸ hs.skip
    | @part _ u s hu hcalm hs =>
      rw [← readRange_skip, heq, ← List.cons_append] at h
      rcases readRange_reflect hcalm hs h with ⟨left, hleft⟩ | hrest
      · obtain ⟨hsuffix, hagain⟩ := isLocal_readRange flags first hcalm hleft
        cases (hagain s).symm.trans h
        exact hs.append (fun hmem => hu (hsuffix.subset hmem)) (hcalm.suffix hsuffix)
      · exact hrest

theorem readMember_reflect {w : List Char} {set : CharSet} (hcalm : IsCalm flags s)
    (hw : IsOpenEnded flags w) (h : readMember flags (s ++ ')' :: w) = .ok (set, rest)) :
    (∃ left, readMember flags s = .ok (set, left)) ∨ IsOpenEnded flags rest := by
  obtain ⟨⟨first, left⟩, hfirst, h⟩ := Except.bind_eq_ok.mp h
  rcases readItem_reflect hcalm hfirst with ⟨left', hleft⟩ | hleft
  · obtain ⟨hsuffix, hagain⟩ := isLocal_readItem flags hcalm hleft
    rw [hagain w] at hfirst
    cases hfirst
    refine (readRange_reflect (hcalm.suffix hsuffix) hw h).imp_left fun ⟨rest', hrest⟩ => ?_
    exact ⟨rest', Except.bind_eq_ok.mpr ⟨_, hleft, hrest⟩⟩
  · exact .inr (readRange_openEnded (hleft ▸ hw) h)

theorem readMember_openEnded {set : CharSet} (hs : IsOpenEnded flags s)
    (h : readMember flags s = .ok (set, rest)) : IsOpenEnded flags rest := by
  obtain ⟨⟨first, left⟩, hfirst, hrange⟩ := Except.bind_eq_ok.mp h
  cases hs with
  | nil => cases hfirst
  | @plain c t hc ht =>
    rw [readItem] at hfirst
    · cases hfirst
      exact readRange_openEnded ht hrange
    · rintro rfl
      exact absurd hc (by decide)
  | @escaped c t hc ht =>
    rw [readItem, readEscape_of_isMeta flags hc] at hfirst
    cases hfirst
    exact readRange_openEnded ht hrange
  | sign hc ht =>
    rcases hc with rfl | rfl
    · cases hfirst
      exact readRange_openEnded ht hrange
    · cases hfirst
      exact readRange_openEnded ht hrange
  | part hu hcalm hs =>
    rw [← List.cons_append] at h
    rcases readMember_reflect hcalm hs h with ⟨left', hleft⟩ | hrest
    · obtain ⟨hsuffix, hagain⟩ := isLocal_readMember flags hcalm hleft
      cases (hagain _).symm.trans h
      exact hs.append (fun hmem => hu (hsuffix.subset hmem)) (hcalm.suffix hsuffix)
    · exact hrest

theorem readOn_reflect {inner : OpenClass} {outer : List OpenClass} {a : ClassReading}
    {w : List Char} (hcalm : IsCalm flags (c :: s)) (hw : IsOpenEnded flags w)
    (h : readOn flags inner outer c (s ++ ')' :: w) = .ok (a, rest)) :
    (∃ left, readOn flags inner outer c s = .ok (a, left)) ∨
      (∃ inner' outer', a = .within inner' outer') ∧ IsOpenEnded flags rest := by
  unfold readOn at h ⊢
  simp only [head?_append_paren (d := '&') (by decide), head?_append_paren (d := '-') (by decide),
    head?_append_paren (d := '~') (by decide), readNamed?_append] at h
  split at h
  · next hopen =>
    refine .inl ?_
    rw [if_pos hopen]
    cases hnamed : readNamed? s with
    | some found =>
      obtain ⟨negated, set, left⟩ := found
      rw [hnamed] at h
      obtain ⟨set', hset, h⟩ := Except.bind_eq_ok.mp h
      cases h
      exact ⟨left, Except.bind_eq_ok.mpr ⟨_, hset, rfl⟩⟩
    | none =>
      rw [hnamed] at h
      simp only [Option.map_none, (openClass_ok (hcalm.suffix (List.suffix_cons c s))).2] at h
      cases h
      exact ⟨_, rfl⟩
  · next hopen =>
    rw [if_neg hopen]
    split at h
    · next hclose =>
      refine .inl ?_
      rw [if_pos hclose]
      obtain ⟨set, hset, h⟩ := Except.bind_eq_ok.mp h
      cases outer with
      | nil => cases h; exact ⟨s, Except.bind_eq_ok.mpr ⟨_, hset, rfl⟩⟩
      | cons k ks => cases h; exact ⟨s, Except.bind_eq_ok.mpr ⟨_, hset, rfl⟩⟩
    · next hclose =>
      rw [if_neg hclose]
      split at h
      · next hboth => cases h; exact .inl ⟨_, if_pos hboth⟩
      · next hboth =>
        rw [if_neg hboth]
        split at h
        · next hless => cases h; exact .inl ⟨_, if_pos hless⟩
        · next hless =>
          rw [if_neg hless]
          split at h
          · next hdiffering => cases h; exact .inl ⟨_, if_pos hdiffering⟩
          · next hdiffering =>
            rw [if_neg hdiffering]
            obtain ⟨⟨set, left⟩, hmember, h⟩ := Except.bind_eq_ok.mp h
            cases h
            rcases readMember_reflect hcalm hw hmember with ⟨left', hleft⟩ | hrest
            · exact .inl ⟨left', Except.bind_eq_ok.mpr ⟨_, hleft, rfl⟩⟩
            · exact .inr ⟨⟨_, _, rfl⟩, hrest⟩

theorem readOn_within {inner : OpenClass} {outer : List OpenClass} {a : ClassReading}
    (hc : c ≠ ']') (h : readOn flags inner outer c s = .ok (a, rest)) :
    ∃ inner' outer', a = .within inner' outer' := by
  unfold readOn at h
  rw [if_neg (by simpa using hc : ¬ (c == ']') = true)] at h
  split at h
  · split at h
    · obtain ⟨set, -, h⟩ := Except.bind_eq_ok.mp h
      cases h
      exact ⟨_, _, rfl⟩
    · cases h
      exact ⟨_, _, rfl⟩
  iterate 3
    split at h
    · cases h
      exact ⟨_, _, rfl⟩
  obtain ⟨found, -, h⟩ := Except.bind_eq_ok.mp h
  cases h
  exact ⟨_, _, rfl⟩

theorem readOn_member {inner : OpenClass} {outer : List OpenClass} {a : ClassReading}
    (hc : ∀ d ∈ classSigns, c ≠ d) (h : readOn flags inner outer c s = .ok (a, rest)) :
    ∃ set, readMember flags (c :: s) = .ok (set, rest) := by
  have hsign : ∀ d ∈ classSigns, (c == d) = false := fun d hd => beq_eq_false_iff_ne.mpr (hc d hd)
  simp only [readOn, hsign '[' (by decide), hsign ']' (by decide), hsign '-' (by decide),
    hsign '&' (by decide), hsign '~' (by decide), Bool.false_eq_true, if_false,
    Bool.false_and] at h
  obtain ⟨⟨set, left⟩, hmember, h⟩ := Except.bind_eq_ok.mp h
  cases h
  exact ⟨set, hmember⟩

theorem readOn_openEnded {inner : OpenClass} {outer : List OpenClass} {a : ClassReading}
    (hs : IsOpenEnded flags (c :: s)) (h : readOn flags inner outer c s = .ok (a, rest)) :
    (∃ inner' outer', a = .within inner' outer') ∧ IsOpenEnded flags rest := by
  have hmember : (∀ d ∈ classSigns, c ≠ d) →
      (∃ inner' outer', a = .within inner' outer') ∧ IsOpenEnded flags rest := by
    intro hc
    obtain ⟨set, hset⟩ := readOn_member hc h
    exact ⟨readOn_within (hc ']' (by decide)) h, readMember_openEnded hs hset⟩
  cases hs with
  | plain hc _ => exact hmember fun d hd => ne_of_isMeta hd hc
  | escaped => exact hmember (by simp [classSigns])
  | sign hc => exact hmember (by rcases hc with rfl | rfl <;> simp [classSigns])
  | part hu hcalm hs =>
    have hc : c ≠ ']' := fun heq => hu (heq ▸ List.mem_cons_self)
    refine ⟨readOn_within hc h, ?_⟩
    rcases readOn_reflect hcalm hs h with ⟨left, hleft⟩ | ⟨-, hrest⟩
    · obtain ⟨hsuffix, hagain⟩ := readOn_ok hcalm hleft
      cases (hagain _).symm.trans h
      exact hs.append (fun hmem => hu (hsuffix.subset hmem)) (hcalm.suffix hsuffix)
    · exact hrest

/-- A class does not end in open-ended text. -/
theorem readMembers_openEnded {inner : OpenClass} {outer : List OpenClass}
    {found : CharSet × Nat × List Char} (hs : IsOpenEnded flags s) :
    readMembers flags inner outer s ≠ .ok found := by
  induction hlength : s.length using Nat.strongRecOn generalizing s inner outer with
  | _ n ih =>
    have hskip := hs.skip
    have hshort := flags.length_skip s
    intro h
    rw [readMembers_eq] at h
    split at h
    · cases h
    · next c t heq =>
      rw [heq] at hskip hshort
      rw [List.length_cons] at hshort
      obtain ⟨⟨reading, left⟩, hon, h⟩ := Except.bind_eq_ok.mp h
      obtain ⟨⟨inner', outer', rfl⟩, hleft⟩ := readOn_openEnded hskip hon
      dsimp only at h
      split at h
      · next hle => exact ih left.length (by omega) hleft rfl h
      · cases h

/-- A class that does not end in a text does not end in open-ended text behind it either. -/
theorem readMembers_reflect {set : CharSet} {depth : Nat} {inner : OpenClass}
    {outer : List OpenClass} {w : List Char} (hcalm : IsCalm flags s) (hw : IsOpenEnded flags w)
    (h : readMembers flags inner outer (s ++ ')' :: w) = .ok (set, depth, rest)) :
    ∃ left, readMembers flags inner outer s = .ok (set, depth, left) := by
  induction hlength : s.length using Nat.strongRecOn generalizing s inner outer with
  | _ n ih =>
    have hskip := skip_suffix flags s
    rw [readMembers_eq, skip_append hcalm] at h
    cases hs : flags.skip s with
    | nil =>
      have hopen : IsOpenEnded flags (')' :: w) := .sign (.inr rfl) hw
      rw [hs, List.nil_append, ← skip_paren flags w, ← readMembers_eq] at h
      exact (readMembers_openEnded hopen h).elim
    | cons c t =>
      rw [hs] at h hskip
      obtain ⟨⟨reading, left⟩, hon, h⟩ := Except.bind_eq_ok.mp h
      rw [readMembers_eq, hs]
      rcases readOn_reflect (hcalm.suffix hskip) hw hon with ⟨left', hleft⟩ | ⟨⟨_, _, rfl⟩, hrest⟩
      · obtain ⟨hsuffix, hagain⟩ := readOn_ok (hcalm.suffix hskip) hleft
        replace hon := (hagain w).symm.trans hon
        cases hon
        simp only [hleft]
        cases reading with
        | done set' depth' =>
          cases h
          exact ⟨left', rfl⟩
        | within inner' outer' =>
          dsimp only at h
          split at h
          · next hle =>
            have hle' : left'.length ≤ t.length := by
              simp only [List.append_eq, List.length_append] at hle
              omega
            have hlt : left'.length < n := by
              have hshort := hskip.length_le
              rw [List.length_cons] at hshort
              omega
            obtain ⟨rest', hrest⟩ := ih left'.length hlt
              (hcalm.suffix (hsuffix.trans hskip)) h rfl
            exact ⟨rest', (if_pos hle').trans hrest⟩
          · cases h
      · dsimp only at h
        split at h
        · exact (readMembers_openEnded hrest h).elim
        · cases h

theorem readClass_reflect {set : CharSet} {depth : Nat} {w : List Char}
    (hcalm : IsCalm flags s) (hw : IsOpenEnded flags w)
    (h : readClass flags (s ++ ')' :: w) = .ok (set, depth, rest)) :
    ∃ left, readClass flags s = .ok (set, depth, left) := by
  obtain ⟨hopen, happend⟩ := openClass_ok hcalm
  rw [readClass, happend] at h
  exact readMembers_reflect (hcalm.suffix hopen) hw h

end Conformance.Regex
