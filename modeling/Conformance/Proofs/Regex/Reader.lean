import Conformance.Proofs.Regex.Class
import Conformance.Regex.Reader

/-!
# Groups and what follows them
-/
namespace Conformance.Regex

variable {flags : Flags} {s t rest : List Char} {c : Char}

namespace Reading

theorem isLocal_readLimit (flags : Flags) (least : Option Nat) :
    IsLocal flags (readLimit flags least) := by
  intro s a rest hcalm hread
  obtain ⟨⟨most, after⟩, hcount, hread⟩ := Except.bind_eq_ok.mp hread
  obtain ⟨hsuffix, hagain⟩ := isLocal_readCount flags hcalm hcount
  cases most with
  | none => cases hread
  | some m =>
    obtain ⟨rfl, rfl⟩ := Prod.mk.inj (Except.ok.inj hread)
    exact ⟨hsuffix, fun w => Except.bind_eq_ok.mpr ⟨_, hagain w, rfl⟩⟩

theorem stopsShort_readLimit (flags : Flags) (least : Option Nat) :
    StopsShort flags (readLimit flags least) := by
  intro s w a rest hcalm hread
  obtain ⟨⟨most, after⟩, hcount, hread⟩ := Except.bind_eq_ok.mp hread
  obtain ⟨left, hleft⟩ := stopsShort_readCount flags hcalm hcount
  cases most with
  | none => cases hread
  | some m =>
    cases hread
    exact ⟨left, Except.bind_eq_ok.mpr ⟨_, hleft, rfl⟩⟩

theorem readMost_append (least : Option Nat) (hcalm : IsCalm flags s) :
    (∃ t, t <:+ s ∧ readMost flags least s = readLimit flags least t ∧
        ∀ w, readMost flags least (s ++ ')' :: w) = readLimit flags least (t ++ ')' :: w)) ∨
      ∃ counts t, t <:+ s ∧ readMost flags least s = .ok (counts, t) ∧
        ∀ w, readMost flags least (s ++ ')' :: w) = .ok (counts, t ++ ')' :: w) := by
  cases s with
  | nil => exact .inr ⟨_, [], List.suffix_rfl, rfl, fun w => rfl⟩
  | cons c t =>
    by_cases hcomma : c = ','
    · subst hcomma
      have ht := hcalm.suffix (List.suffix_cons ',' t)
      have hskip := (skip_suffix flags t).trans (List.suffix_cons ',' t)
      simp only [readMost, List.cons_append, skip_append ht]
      cases hu : flags.skip t with
      | nil => exact .inl ⟨[], hu ▸ hskip, rfl, fun w => rfl⟩
      | cons d u =>
        rw [hu] at hskip
        by_cases hbrace : d = '\x7d'
        · subst hbrace
          exact .inr ⟨_, _, hskip, rfl, fun w => rfl⟩
        · simp only [List.cons_append, List.cons.injEq, hbrace, false_and, false_implies,
            implies_true]
          exact .inl ⟨d :: u, hskip, rfl, fun w => rfl⟩
    · simp only [readMost, List.cons_append, List.cons.injEq, hcomma, false_and, false_implies,
        implies_true]
      exact .inr ⟨_, c :: t, List.suffix_rfl, rfl, fun w => rfl⟩

theorem isLocal_readMost (flags : Flags) (least : Option Nat) :
    IsLocal flags (readMost flags least) := by
  intro s a rest hcalm hread
  rcases readMost_append least hcalm with ⟨t, ht, heq, hagain⟩ | ⟨counts, t, ht, heq, hagain⟩
  · rw [heq] at hread
    obtain ⟨hsuffix, hlimit⟩ := isLocal_readLimit flags least (hcalm.suffix ht) hread
    exact ⟨hsuffix.trans ht, fun w => (hagain w).trans (hlimit w)⟩
  · cases heq.symm.trans hread
    exact ⟨ht, hagain⟩

theorem stopsShort_readMost (flags : Flags) (least : Option Nat) :
    StopsShort flags (readMost flags least) := by
  intro s w a rest hcalm hread
  rcases readMost_append least hcalm with ⟨t, ht, heq, hagain⟩ | ⟨counts, t, -, heq, hagain⟩
  · rw [hagain] at hread
    rw [heq]
    exact stopsShort_readLimit flags least (hcalm.suffix ht) hread
  · cases (hagain w).symm.trans hread
    exact ⟨t, heq⟩

theorem readCounts_le {least : Nat} {most : Option Nat}
    (h : readCounts flags s = .ok (least, most, rest)) : ∀ m, most = some m → least ≤ m := by
  obtain ⟨⟨first, after⟩, -, h⟩ := Except.bind_eq_ok.mp h
  obtain ⟨⟨counts, last⟩, -, h⟩ := Except.bind_eq_ok.mp h
  dsimp only at h
  split at h
  · split at h
    · next hall =>
      cases h
      rintro m rfl
      simpa using hall
    · cases h
  · cases h

theorem readCounts_ok {least : Nat} {most : Option Nat} (hcalm : IsCalm flags s)
    (h : readCounts flags s = .ok (least, most, rest)) :
    rest <:+ s ∧ ∀ w, readCounts flags (s ++ ')' :: w) = .ok (least, most, rest ++ ')' :: w) := by
  have hskip := skip_suffix flags s
  simp only [readCounts, skip_append hcalm] at h ⊢
  obtain ⟨⟨first, after⟩, hfirst, h⟩ := Except.bind_eq_ok.mp h
  obtain ⟨hafter, hagain⟩ := isLocal_readCount flags (hcalm.suffix hskip) hfirst
  obtain ⟨⟨counts, last⟩, hmost, h⟩ := Except.bind_eq_ok.mp h
  obtain ⟨hlast, hagain'⟩ :=
    isLocal_readMost flags first (hcalm.suffix (hafter.trans hskip)) hmost
  dsimp only at h
  split at h
  · next least' most' left =>
    split at h
    · next hall =>
      cases h
      refine ⟨(List.suffix_cons _ _).trans (hlast.trans (hafter.trans hskip)), fun w => ?_⟩
      exact Except.bind_eq_ok.mpr ⟨_, hagain w, Except.bind_eq_ok.mpr ⟨_, hagain' w, if_pos hall⟩⟩
    · cases h
  · cases h

theorem readCounts_reflect {least : Nat} {most : Option Nat} {w : List Char}
    (hcalm : IsCalm flags s) (h : readCounts flags (s ++ ')' :: w) = .ok (least, most, rest)) :
    ∃ left, readCounts flags s = .ok (least, most, left) := by
  have hskip := skip_suffix flags s
  simp only [readCounts, skip_append hcalm] at h ⊢
  obtain ⟨⟨first, after⟩, hfirst, h⟩ := Except.bind_eq_ok.mp h
  obtain ⟨after, hfirst', hafter, rfl⟩ := StopsShort.split (stopsShort_readCount flags)
    (isLocal_readCount flags) (hcalm.suffix hskip) hfirst
  obtain ⟨⟨counts, last⟩, hmost, h⟩ := Except.bind_eq_ok.mp h
  obtain ⟨last, hmost', hlast, rfl⟩ := StopsShort.split (stopsShort_readMost flags first)
    (isLocal_readMost flags first) (hcalm.suffix (hafter.trans hskip)) hmost
  dsimp only at h
  split at h
  · next least' most' left heq =>
    split at h
    · next hall =>
      cases h
      obtain ⟨left', rfl, -⟩ := eq_cons_of_append_paren (by decide) heq
      exact ⟨left', Except.bind_eq_ok.mpr
        ⟨_, hfirst', Except.bind_eq_ok.mpr ⟨_, hmost', if_pos hall⟩⟩⟩
    · cases h
  · cases h

end Reading

/-! ## Flags and names -/

/-- A flag letter is refused, or ends the list, or sets flags, whatever follows it. -/
theorem readFlags_cons (flags : Flags) (seen : List Char) (c : Char) :
    (∃ fault, ∀ s, readFlags flags seen (c :: s) = .error fault) ∨
      (∀ s, readFlags flags seen (c :: s) = .ok (flags, c :: s)) ∧ (c = ':' ∨ c = ')') ∨
      ∃ next, ∀ s, readFlags flags seen (c :: s) = readFlags next (c :: seen) s := by
  by_cases hend : c = ':' ∨ c = ')'
  · have hc : (c == ':' || c == ')') = true := by simpa using hend
    by_cases hhyphen : (seen.head? == some '-') = true
    · exact .inl ⟨.flag, fun s => by rw [readFlags, if_pos hc, if_pos hhyphen]⟩
    · exact .inr (.inl ⟨fun s => by rw [readFlags, if_pos hc, if_neg hhyphen], hend⟩)
  · have hc : ¬ (c == ':' || c == ')') = true := by simpa using hend
    by_cases hseen : seen.contains c = true
    · exact .inl ⟨.flag, fun s => by rw [readFlags, if_neg hc, if_pos hseen]⟩
    · simp only [readFlags, if_neg hc, if_neg hseen]
      split
      all_goals first
        | exact .inl ⟨_, fun _ => rfl⟩
        | exact .inr (.inr ⟨_, fun _ => rfl⟩)

theorem readFlags_ok {seen : List Char} {inside : Flags}
    (h : readFlags flags seen s = .ok (inside, rest)) :
    rest <:+ s ∧ (∃ c t, rest = c :: t ∧ (c = ':' ∨ c = ')')) ∧
      ∀ w, readFlags flags seen (s ++ w) = .ok (inside, rest ++ w) := by
  induction s generalizing flags seen with
  | nil => cases h
  | cons c t ih =>
    rcases readFlags_cons flags seen c with ⟨fault, hfault⟩ | ⟨hend, hc⟩ | ⟨next, hnext⟩
    · rw [hfault] at h
      cases h
    · rw [hend] at h
      cases h
      exact ⟨List.suffix_rfl, ⟨c, t, rfl, hc⟩, fun w => hend (t ++ w)⟩
    · rw [hnext] at h
      obtain ⟨hsuffix, hhead, hagain⟩ := ih h
      exact ⟨hsuffix.trans (List.suffix_cons c t), hhead, fun w => (hnext _).trans (hagain w)⟩

theorem takesParen_readFlags (flags : Flags) (seen : List Char) {inside : Flags}
    (h : readFlags flags seen (s ++ [')']) = .ok (inside, rest)) :
    (∃ left, readFlags flags seen s = .ok (inside, left)) ∨
      ∀ w, readFlags flags seen (s ++ ')' :: w) = .ok (inside, ')' :: w) := by
  induction s generalizing flags seen with
  | nil =>
    rw [List.nil_append, readFlags, if_pos (by rfl)] at h
    split at h
    · cases h
    · next hhyphen =>
      cases h
      refine .inr fun w => ?_
      rw [List.nil_append, readFlags, if_pos (by rfl), if_neg hhyphen]
  | cons c t ih =>
    rcases readFlags_cons flags seen c with ⟨fault, hfault⟩ | ⟨hend, hc⟩ | ⟨next, hnext⟩
    · rw [List.cons_append, hfault] at h
      cases h
    · rw [List.cons_append, hend] at h
      cases h
      exact .inl ⟨_, hend t⟩
    · rw [List.cons_append, hnext] at h
      simp only [List.cons_append, hnext]
      exact ih next (c :: seen) h

theorem readName_ok {name : String} (h : readName s = .ok (name, rest)) :
    rest <:+ s ∧ ∀ w, readName (s ++ w) = .ok (name, rest ++ w) := by
  unfold readName at h
  split at h
  · next c cs d t htake hdrop =>
    have hsuffix := List.dropWhile_suffix (l := s) (· != '>')
    have hlength := congrArg List.length
      (List.takeWhile_append_dropWhile (p := (· != '>')) (l := s))
    rw [hdrop] at hsuffix
    rw [hdrop, List.length_append, List.length_cons] at hlength
    split at h
    · next hname =>
      cases h
      refine ⟨(List.suffix_cons d rest).trans hsuffix, fun w => ?_⟩
      rw [readName, List.takeWhile_append, if_neg (by omega), List.dropWhile_append, hdrop, htake]
      exact if_pos hname
    · cases h
  · cases h

theorem readName_paren {name : String} (h : readName (s ++ [')']) = .ok (name, rest)) :
    ∃ left, readName s = .ok (name, left) := by
  unfold readName at h
  split at h
  · next c cs d t htake hdrop =>
    split at h
    · next hname =>
      cases h
      rw [List.dropWhile_append] at hdrop
      split at hdrop
      · cases hdrop
      · next hnonempty =>
        have hlength := congrArg List.length
          (List.takeWhile_append_dropWhile (p := (· != '>')) (l := s))
        cases hs : s.dropWhile (· != '>') with
        | nil => exact (hnonempty (by rw [hs]; rfl)).elim
        | cons e u =>
          rw [hs, List.length_append, List.length_cons] at hlength
          rw [List.takeWhile_append, if_neg (by omega)] at htake
          refine ⟨u, ?_⟩
          rw [readName, htake, hs]
          exact if_pos hname
    · cases h
  · cases h

/-! ## Groups -/

namespace Reading

variable {r r' : Reading}

theorem isLocal_openNamed (r : Reading) : IsLocal flags r.openNamed := by
  intro s a rest _ hread
  obtain ⟨⟨name, left⟩, hname, hread⟩ := Except.bind_eq_ok.mp hread
  cases hread
  obtain ⟨hsuffix, hagain⟩ := readName_ok hname
  exact ⟨hsuffix, fun w => Except.bind_eq_ok.mpr ⟨_, hagain _, rfl⟩⟩

theorem isLocal_readFlagged (r : Reading) : IsLocal flags r.readFlagged := by
  intro s a rest _ hread
  obtain ⟨⟨inside, left⟩, hflags, hread⟩ := Except.bind_eq_ok.mp hread
  obtain ⟨hsuffix, ⟨c, t, rfl, hc⟩, hagain⟩ := readFlags_ok hflags
  have ht := (List.suffix_cons c t).trans hsuffix
  cases s with
  | nil => cases hflags
  | cons d u =>
    dsimp only at hread
    split at hread
    · cases hread
    · next hhead =>
      have hfirst : ∀ w, readFlags r.level.flags [] (d :: u ++ w) = .ok (inside, c :: t ++ w) :=
        hagain
      rcases hc with rfl | rfl
      · cases hread
        exact ⟨ht, fun w => Except.bind_eq_ok.mpr ⟨_, hfirst _, if_neg hhead⟩⟩
      · cases hread
        exact ⟨ht, fun w => Except.bind_eq_ok.mpr ⟨_, hfirst _, if_neg hhead⟩⟩

/-- A list of flags that ends a text is ended by the parenthesis behind it. -/
theorem takesParen_readFlagged (r : Reading) : TakesParen flags r.readFlagged := by
  intro s r' rest _ h
  obtain ⟨⟨inside, left⟩, hflags, h⟩ := Except.bind_eq_ok.mp h
  dsimp only at h
  split at h
  · cases h
  · next hhead =>
    rcases takesParen_readFlags r.level.flags [] hflags with ⟨left', hleft⟩ | hagain
    · obtain ⟨hsuffix, ⟨c, t, rfl, hc⟩, hagain⟩ := readFlags_ok hleft
      cases (hagain _).symm.trans hflags
      have hhead' : ¬ (s.head? == some ')') = true := by
        cases s with
        | nil => cases hleft
        | cons d u => exact hhead
      rcases hc with rfl | rfl
      · cases h
        exact .inl ⟨t, Except.bind_eq_ok.mpr ⟨_, hleft, if_neg hhead'⟩⟩
      · cases h
        exact .inl ⟨t, Except.bind_eq_ok.mpr ⟨_, hleft, if_neg hhead'⟩⟩
    · cases (hagain []).symm.trans hflags
      cases h
      refine .inr fun w => Except.bind_eq_ok.mpr ⟨_, hagain w, if_neg ?_⟩
      cases s with
      | nil => exact hhead
      | cons d u => exact hhead

theorem takesParen_openNamed (r : Reading) : TakesParen flags r.openNamed := by
  intro s r' rest _ h
  obtain ⟨⟨name, left⟩, hname, h⟩ := Except.bind_eq_ok.mp h
  cases h
  obtain ⟨left', hleft⟩ := readName_paren hname
  exact .inl ⟨left', Except.bind_eq_ok.mpr ⟨_, hleft, rfl⟩⟩

theorem readKind_flagged (hlook : ∀ t, s ≠ '=' :: t ∧ s ≠ '!' :: t) (hangle : ∀ t, s ≠ '<' :: t)
    (hname : ∀ t, s ≠ 'P' :: '<' :: t) : r.readKind s = r.readFlagged s := by
  unfold readKind
  split
  · exact ((hlook _).1 rfl).elim
  · exact ((hlook _).2 rfl).elim
  · exact (hangle _ rfl).elim
  · exact (hangle _ rfl).elim
  · exact (hname _ rfl).elim
  · exact (hangle _ rfl).elim
  · rfl

theorem readKind_append (r : Reading) (s : List Char) :
    (∃ fault, r.readKind s = .error fault ∧ ∀ w, r.readKind (s ++ ')' :: w) = .error fault) ∨
      (∃ t, t <:+ s ∧ r.readKind s = r.openNamed t ∧
        ∀ w, r.readKind (s ++ ')' :: w) = r.openNamed (t ++ ')' :: w)) ∨
      r.readKind s = r.readFlagged s ∧
        ∀ w, r.readKind (s ++ ')' :: w) = r.readFlagged (s ++ ')' :: w) := by
  rcases s with _ | ⟨c, t⟩
  · exact .inr (.inr ⟨rfl, fun w => rfl⟩)
  · by_cases hangle : c = '<'
    · subst hangle
      rcases t with _ | ⟨d, u⟩
      · exact .inr (.inl ⟨[], List.suffix_cons _ _, rfl, fun w => rfl⟩)
      · by_cases hlook : d = '=' ∨ d = '!'
        · rcases hlook with rfl | rfl <;> exact .inl ⟨_, rfl, fun w => rfl⟩
        · rw [not_or] at hlook
          refine .inr (.inl ⟨d :: u, List.suffix_cons _ _, ?_, fun w => ?_⟩) <;>
            simp [readKind, hlook]
    · by_cases hlook : c = '=' ∨ c = '!'
      · rcases hlook with rfl | rfl <;> exact .inl ⟨_, rfl, fun w => rfl⟩
      · rw [not_or] at hlook
        by_cases hname : ∃ u, c = 'P' ∧ t = '<' :: u
        · obtain ⟨u, rfl, rfl⟩ := hname
          exact .inr (.inl ⟨u, (List.suffix_cons _ _).trans (List.suffix_cons _ _), rfl,
            fun w => rfl⟩)
        · have hflagged : ∀ v, (∀ u, c :: v ≠ 'P' :: '<' :: u) →
              r.readKind (c :: v) = r.readFlagged (c :: v) := by
            have hfirst : ∀ d v u, c ≠ d → c :: v ≠ d :: u := fun d v u hne heq =>
              hne (List.cons.inj heq).1
            exact fun v => readKind_flagged
              (fun u => ⟨hfirst _ v u hlook.1, hfirst _ v u hlook.2⟩) fun u => hfirst _ v u hangle
          refine .inr (.inr ⟨hflagged t fun u heq => ?_, fun w => hflagged _ fun u heq => ?_⟩)
          · exact hname ⟨u, List.cons.inj heq⟩
          · obtain ⟨hc, ht⟩ := List.cons.inj heq
            obtain ⟨v, rfl, -⟩ := eq_cons_of_append_paren (by decide) ht
            exact hname ⟨v, hc, rfl⟩

theorem isLocal_readKind (r : Reading) : IsLocal flags r.readKind := by
  intro s a rest hcalm hread
  rcases readKind_append r s with ⟨fault, hfault, -⟩ | ⟨t, ht, heq, hagain⟩ | ⟨heq, hagain⟩
  · rw [hfault] at hread
    cases hread
  · rw [heq] at hread
    obtain ⟨hsuffix, hnamed⟩ := isLocal_openNamed r (hcalm.suffix ht) hread
    exact ⟨hsuffix.trans ht, fun w => (hagain w).trans (hnamed w)⟩
  · rw [heq] at hread
    obtain ⟨hsuffix, hflagged⟩ := isLocal_readFlagged r hcalm hread
    exact ⟨hsuffix, fun w => (hagain w).trans (hflagged w)⟩

theorem takesParen_readKind (r : Reading) : TakesParen flags r.readKind := by
  intro s r' rest hcalm h
  rcases readKind_append r s with ⟨fault, -, hfault⟩ | ⟨t, ht, heq, hagain⟩ | ⟨heq, hagain⟩
  · cases (hfault []).symm.trans h
  · rw [hagain] at h
    simp only [heq, hagain]
    exact takesParen_openNamed r (hcalm.suffix ht) h
  · rw [hagain] at h
    simp only [heq, hagain]
    exact takesParen_readFlagged r hcalm h

theorem isLocal_readGroup (r : Reading) : IsLocal r.level.flags r.readGroup := by
  intro s a rest hcalm hread
  have hskip := skip_suffix r.level.flags s
  unfold readGroup at hread ⊢
  simp only [skip_append hcalm]
  split at hread
  · next t heq =>
    have ht := (List.suffix_cons '?' t).trans (heq ▸ hskip)
    simp only [heq, List.cons_append]
    exact (isLocal_readKind r (hcalm.suffix ht) hread).imp_left (·.trans ht)
  · next hplain =>
    cases hread
    refine ⟨hskip, fun w => ?_⟩
    split
    · next u heq =>
      obtain ⟨v, hv, -⟩ := eq_cons_of_append_paren (by decide) heq
      exact (hplain v hv).elim
    · rfl

theorem takesParen_readGroup (r : Reading) : TakesParen r.level.flags r.readGroup := by
  intro s r' rest hcalm h
  have hskip := skip_suffix r.level.flags s
  unfold readGroup at h ⊢
  simp only [skip_append hcalm] at h ⊢
  split at h
  · next t heq =>
    obtain ⟨u, hu, rfl⟩ := eq_cons_of_append_paren (by decide) heq
    have hcalm' := hcalm.suffix ((List.suffix_cons '?' u).trans (hu ▸ hskip))
    simp only [hu, List.cons_append]
    exact takesParen_readKind r hcalm' h
  · next hplain =>
    cases h
    refine .inl ?_
    split
    · next u hu => exact (hplain (u ++ [')']) (by rw [hu]; rfl)).elim
    · exact ⟨_, rfl⟩

/-! ## Steps -/

theorem repeatLast_append (r : Reading) (least : Nat) (most : Option Nat) (s w : List Char) :
    r.repeatLast least most (s ++ ')' :: w) =
      (r.repeatLast least most s).map fun (r', rest) => (r', rest ++ ')' :: w) := by
  unfold repeatLast
  cases r.level.repeatLast least most with
  | error fault => rfl
  | ok l =>
    cases s with
    | nil => rfl
    | cons c t =>
      by_cases hc : c = '?'
      · subst hc
        rfl
      · simp [bind, Except.bind, Except.map, pure, Except.pure, hc]

theorem repeatLast_ok {least : Nat} {most : Option Nat}
    (h : r.repeatLast least most s = .ok (r', rest)) :
    ∃ l, r.level.repeatLast least most = .ok l ∧ r' = r.withLevel l ∧ rest <:+ s := by
  obtain ⟨l, hl, h⟩ := Except.bind_eq_ok.mp h
  split at h
  · cases h
    exact ⟨l, hl, rfl, List.suffix_cons _ _⟩
  · cases h
    exact ⟨l, hl, rfl, List.suffix_rfl⟩

theorem isLocal_repeatLast (r : Reading) (least : Nat) (most : Option Nat) :
    IsLocal flags (r.repeatLast least most) := by
  intro s a rest _ hread
  obtain ⟨l, -, -, hsuffix⟩ := repeatLast_ok hread
  exact ⟨hsuffix, fun w => by rw [repeatLast_append, hread]; rfl⟩

theorem stopsShort_repeatLast (r : Reading) (least : Nat) (most : Option Nat) :
    StopsShort flags (r.repeatLast least most) := by
  intro s w a rest _ hread
  rw [repeatLast_append] at hread
  cases h : r.repeatLast least most s with
  | error fault => rw [h] at hread; cases hread
  | ok found => rw [h] at hread; cases hread; exact ⟨_, rfl⟩

def signs : List Char :=
  ['(', ')', '|', '[', '?', '*', '+', '\x7b', '\\', '.', '^', '$']

theorem step_of_notMem (r : Reading) (hc : c ∉ signs) (s : List Char) :
    r.step c s = .ok (r.withLevel (r.level.addChar c), s) := by
  unfold step
  split
  case h_13 => rfl
  all_goals exact absurd hc (by decide)

theorem notMem_signs (hc : isMeta c = false) : c ∉ signs := by
  intro hmem
  simp only [signs, List.mem_cons, List.not_mem_nil, or_false] at hmem
  rcases hmem with rfl | rfl | rfl | rfl | rfl | rfl | rfl | rfl | rfl | rfl | rfl | rfl <;>
    exact absurd hc (by decide)

theorem isLocal_step (r : Reading) (c : Char) : IsLocal r.level.flags (r.step c) := by
  intro s a rest hcalm hread
  have hunread : ∀ {x : Except Fault Reading},
      (do return (← x, s) : Except Fault (Reading × List Char)) = .ok (a, rest) → rest <:+ s ∧
        ∀ w, (do return (← x, s ++ ')' :: w) : Except Fault (Reading × List Char)) =
          .ok (a, rest ++ ')' :: w) := by
    intro x h
    obtain ⟨y, rfl, h⟩ := Except.bind_eq_ok.mp h
    cases h
    exact ⟨List.suffix_rfl, fun w => rfl⟩
  by_cases hc : c ∈ signs
  · simp only [signs, List.mem_cons, List.not_mem_nil, or_false] at hc
    rcases hc with rfl | rfl | rfl | rfl | rfl | rfl | rfl | rfl | rfl | rfl | rfl | rfl
    · exact isLocal_readGroup r hcalm hread
    · exact hunread hread
    · cases hread
      exact ⟨List.suffix_rfl, fun w => rfl⟩
    · obtain ⟨⟨set, depth, left⟩, hclass, hread⟩ := Except.bind_eq_ok.mp hread
      cases hread
      obtain ⟨hsuffix, hagain⟩ := readClass_ok hcalm hclass
      exact ⟨hsuffix, fun w => Except.bind_eq_ok.mpr ⟨_, hagain w, rfl⟩⟩
    · exact isLocal_repeatLast r 0 (some 1) hcalm hread
    · exact isLocal_repeatLast r 0 none hcalm hread
    · exact isLocal_repeatLast r 1 none hcalm hread
    · obtain ⟨⟨least, most, left⟩, hcounts, hread⟩ := Except.bind_eq_ok.mp hread
      obtain ⟨hsuffix, hagain⟩ := readCounts_ok hcalm hcounts
      have hleft := (skip_suffix r.level.flags left).trans hsuffix
      obtain ⟨hrest, hagain'⟩ := isLocal_repeatLast r least most (hcalm.suffix hleft) hread
      refine ⟨hrest.trans hleft, fun w => Except.bind_eq_ok.mpr ⟨_, hagain w, ?_⟩⟩
      dsimp only
      rw [skip_append (hcalm.suffix hsuffix)]
      exact hagain' w
    · obtain ⟨⟨atom, left⟩, hescape, hread⟩ := Except.bind_eq_ok.mp hread
      cases hread
      obtain ⟨hsuffix, hagain⟩ := isLocal_readEscape r.level.flags hcalm hescape
      exact ⟨hsuffix, fun w => Except.bind_eq_ok.mpr ⟨_, hagain w, rfl⟩⟩
    · obtain ⟨l, hl, hread⟩ := Except.bind_eq_ok.mp hread
      cases hread
      exact ⟨List.suffix_rfl, fun w => Except.bind_eq_ok.mpr ⟨l, hl, rfl⟩⟩
    · cases hread
      exact ⟨List.suffix_rfl, fun w => rfl⟩
    · cases hread
      exact ⟨List.suffix_rfl, fun w => rfl⟩
  · rw [step_of_notMem r hc] at hread
    cases hread
    exact ⟨List.suffix_rfl, fun w => step_of_notMem r hc _⟩

/-- A step that ends only behind the parenthesis takes it for part of an escape or of flags. -/
theorem takesParen_step (r : Reading) (c : Char) : TakesParen r.level.flags (r.step c) := by
  intro s r' rest hcalm h
  by_cases hc : c ∈ signs
  · simp only [signs, List.mem_cons, List.not_mem_nil, or_false] at hc
    rcases hc with rfl | rfl | rfl | rfl | rfl | rfl | rfl | rfl | rfl | rfl | rfl | rfl
    · exact takesParen_readGroup r hcalm h
    · obtain ⟨y, hy, h⟩ := Except.bind_eq_ok.mp h
      cases h
      exact .inl ⟨s, Except.bind_eq_ok.mpr ⟨_, hy, rfl⟩⟩
    · cases h
      exact .inl ⟨s, rfl⟩
    · obtain ⟨⟨set, depth, left⟩, hclass, h⟩ := Except.bind_eq_ok.mp h
      cases h
      obtain ⟨left', hleft⟩ := readClass_reflect hcalm .nil hclass
      exact .inl ⟨left', Except.bind_eq_ok.mpr ⟨_, hleft, rfl⟩⟩
    · exact .inl (stopsShort_repeatLast r 0 (some 1) hcalm h)
    · exact .inl (stopsShort_repeatLast r 0 none hcalm h)
    · exact .inl (stopsShort_repeatLast r 1 none hcalm h)
    · obtain ⟨⟨least, most, left⟩, hcounts, h⟩ := Except.bind_eq_ok.mp h
      obtain ⟨left', hleft⟩ := readCounts_reflect hcalm hcounts
      obtain ⟨hsuffix, hagain⟩ := readCounts_ok hcalm hleft
      cases (hagain []).symm.trans hcounts
      dsimp only at h
      rw [skip_append (hcalm.suffix hsuffix)] at h
      obtain ⟨rest', hrest⟩ := stopsShort_repeatLast r least most
        (hcalm.suffix ((skip_suffix r.level.flags left').trans hsuffix)) h
      exact .inl ⟨rest', Except.bind_eq_ok.mpr ⟨_, hleft, hrest⟩⟩
    · obtain ⟨⟨atom, left⟩, hescape, h⟩ := Except.bind_eq_ok.mp h
      cases h
      rcases readEscape_reflect hcalm hescape with ⟨left', hleft⟩ | hagain
      · exact .inl ⟨left', Except.bind_eq_ok.mpr ⟨_, hleft, rfl⟩⟩
      · exact .inr fun w => Except.bind_eq_ok.mpr ⟨_, hagain w, rfl⟩
    · obtain ⟨l, hl, h⟩ := Except.bind_eq_ok.mp h
      cases h
      exact .inl ⟨s, Except.bind_eq_ok.mpr ⟨l, hl, rfl⟩⟩
    · cases h
      exact .inl ⟨s, rfl⟩
    · cases h
      exact .inl ⟨s, rfl⟩
  · rw [step_of_notMem r hc] at h
    cases h
    exact .inl ⟨s, step_of_notMem r hc s⟩

/-! ## What a step makes of a reading -/

theorem step_paren_ok (h : r.step ')' s = .ok (r', rest)) :
    ∃ l ls, r.outer = l :: ls ∧ rest = s ∧ r' = { r with
      level := l.push ⟨r.level.close.expr, r.level.close.depth + 1, false⟩, outer := ls } := by
  obtain ⟨next, hclose, h⟩ := Except.bind_eq_ok.mp h
  cases h
  unfold closeGroup at hclose
  split at hclose
  · cases hclose
  · next l ls houter =>
    cases hclose
    exact ⟨l, ls, houter, rfl, rfl⟩

/-- Flags that are on, or that some letters of the text in front switch to. -/
def Switches (flags : Flags) (s : List Char) (inside : Flags) : Prop :=
  inside = flags ∨ ∃ t rest, t <:+ s ∧ readFlags flags [] t = .ok (inside, rest)

/-- What a step with `s` in front of it makes of a reading, whatever sign it is at. -/
inductive Makes (r : Reading) (s : List Char) : Reading → Prop where
  | chars (set : CharSet) (depth : Nat) :
    Makes r s (r.withLevel (r.level.push ⟨.chars set, depth, false⟩))
  | look (condition : Look) : Makes r s (r.withLevel (r.level.add (.look condition)))
  | branch : Makes r s (r.withLevel r.level.nextBranch)
  | repeated {p : Piece} {ps : List Piece} {least : Nat} {most : Option Nat} :
    r.level.pieces = p :: ps → (∀ m, most = some m → least ≤ m) → Makes r s (r.withLevel
      { r.level with pieces := ⟨p.expr.repeated least most, p.depth + 1, false⟩ :: ps })
  | directive {inside : Flags} : Switches r.level.flags s inside → Makes r s (r.withLevel
      { r.level with flags := inside, pieces := ⟨.empty, 0, true⟩ :: r.level.pieces })
  | opened {inside : Flags} (names : List String) : Switches r.level.flags s inside →
    Makes r s { r.openGroup inside with names }
  | closed {l : Level} {ls : List Level} : r.outer = l :: ls → Makes r s { r with
      level := l.push ⟨r.level.close.expr, r.level.close.depth + 1, false⟩, outer := ls }

theorem makes_of_openNamed (h : r.openNamed t = .ok (r', rest)) : Makes r s r' := by
  obtain ⟨⟨name, left⟩, -, h⟩ := Except.bind_eq_ok.mp h
  cases h
  exact .opened _ (.inl rfl)

theorem makes_of_readFlagged (ht : t <:+ s) (h : r.readFlagged t = .ok (r', rest)) :
    Makes r s r' := by
  obtain ⟨⟨inside, left⟩, hflags, h⟩ := Except.bind_eq_ok.mp h
  have hswitches : Switches r.level.flags s inside := .inr ⟨t, left, ht, hflags⟩
  dsimp only at h
  split at h
  · cases h
  · split at h
    · cases h
      exact .directive hswitches
    · cases h
      exact .opened _ hswitches

theorem makes_of_readGroup (h : r.readGroup s = .ok (r', rest)) : Makes r s r' := by
  have hskip := skip_suffix r.level.flags s
  unfold readGroup at h
  split at h
  · next t heq =>
    have ht := (List.suffix_cons '?' t).trans (heq ▸ hskip)
    rcases readKind_append r t with ⟨fault, hfault, -⟩ | ⟨u, -, hnamed, -⟩ | ⟨hflagged, -⟩
    · cases hfault.symm.trans h
    · exact makes_of_openNamed (hnamed.symm.trans h)
    · exact makes_of_readFlagged ht (hflagged.symm.trans h)
  · cases h
    exact .opened _ (.inl rfl)

theorem makes_of_repeatLast {least : Nat} {most : Option Nat}
    (hbounds : ∀ m, most = some m → least ≤ m)
    (h : r.repeatLast least most t = .ok (r', rest)) : Makes r s r' := by
  obtain ⟨l, hl, rfl, -⟩ := repeatLast_ok h
  unfold Level.repeatLast at hl
  split at hl
  · cases hl
  · next p ps hpieces =>
    split at hl
    · cases hl
    · cases hl
      exact .repeated hpieces hbounds

theorem makes_of_step (h : r.step c s = .ok (r', rest)) : Makes r s r' := by
  have hendless : ∀ {least : Nat}, ∀ m, (none : Option Nat) = some m → least ≤ m :=
    fun _ hm => nomatch hm
  by_cases hc : c ∈ signs
  · simp only [signs, List.mem_cons, List.not_mem_nil, or_false] at hc
    rcases hc with rfl | rfl | rfl | rfl | rfl | rfl | rfl | rfl | rfl | rfl | rfl | rfl
    · exact makes_of_readGroup h
    · obtain ⟨l, ls, houter, -, rfl⟩ := step_paren_ok h
      exact .closed houter
    · cases h
      exact .branch
    · obtain ⟨⟨set, depth, left⟩, -, h⟩ := Except.bind_eq_ok.mp h
      cases h
      exact .chars set depth
    · refine makes_of_repeatLast (fun m hm => ?_) h
      cases hm
      exact Nat.zero_le 1
    · exact makes_of_repeatLast hendless h
    · exact makes_of_repeatLast hendless h
    · obtain ⟨⟨least, most, left⟩, hcounts, h⟩ := Except.bind_eq_ok.mp h
      exact makes_of_repeatLast (readCounts_le hcounts) h
    · obtain ⟨⟨atom, left⟩, -, h⟩ := Except.bind_eq_ok.mp h
      cases h
      cases atom with
      | char => exact .chars _ 0
      | set members => exact .chars members 0
      | look condition => exact .look condition
    · obtain ⟨l, hl, h⟩ := Except.bind_eq_ok.mp h
      cases h
      unfold Level.addAny at hl
      split at hl
      · cases hl
      · cases hl
        exact .chars _ 0
    · cases h
      exact .look _
    · cases h
      exact .look _
  · rw [step_of_notMem r hc] at h
    cases h
    exact .chars _ 0

end Reading

end Conformance.Regex
