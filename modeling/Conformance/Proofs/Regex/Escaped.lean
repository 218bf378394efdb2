import Conformance.Proofs.Regex.Notation
import Conformance.Proofs.Unicode.Property
import Conformance.Regex.Escaped

/-!
# Escapes and what follows them
-/
namespace Conformance.Regex

variable {flags : Flags} {s t rest : List Char} {c : Char}

theorem takeBraced_some {inside : List Char} (hcalm : IsCalm flags s)
    (h : takeBraced flags s = some (inside, rest)) :
    rest <:+ s ∧ ∀ w, takeBraced flags (s ++ ')' :: w) = some (inside, rest ++ ')' :: w) := by
  fun_induction takeBraced flags s generalizing inside with
  | case1 => cases h
  | case2 c left hbrace =>
    obtain ⟨rfl, rfl⟩ := Prod.mk.inj (Option.some.inj h)
    exact ⟨List.suffix_cons c left, fun w => by rw [List.cons_append, takeBraced, if_pos hbrace]⟩
  | case3 c left hbrace ih =>
    obtain ⟨⟨inside', rest'⟩, hrest, heq⟩ := Option.map_eq_some_iff.mp h
    obtain ⟨rfl, rfl⟩ := Prod.mk.inj heq
    have hleft := hcalm.suffix (List.suffix_cons c left)
    obtain ⟨hsuffix, hagain⟩ := ih (hleft.suffix (skip_suffix flags left)) hrest
    refine ⟨(hsuffix.trans (skip_suffix flags left)).trans (List.suffix_cons c left), fun w => ?_⟩
    rw [List.cons_append, takeBraced, if_neg hbrace, skip_append hleft, hagain]
    rfl

/-- What is found in braces ends before the parenthesis, or has it in it. -/
theorem takeBraced_reflect {inside w : List Char} (hcalm : IsCalm flags s)
    (h : takeBraced flags (s ++ ')' :: w) = some (inside, rest)) (hinside : ')' ∉ inside) :
    ∃ left, takeBraced flags s = some (inside, left) := by
  fun_induction takeBraced flags s generalizing inside with
  | case1 =>
    rw [List.nil_append, takeBraced, if_neg (by decide)] at h
    obtain ⟨⟨inside', rest'⟩, -, heq⟩ := Option.map_eq_some_iff.mp h
    obtain ⟨rfl, rfl⟩ := Prod.mk.inj heq
    exact (hinside List.mem_cons_self).elim
  | case2 c left hbrace =>
    rw [List.cons_append, takeBraced, if_pos hbrace] at h
    obtain ⟨rfl, rfl⟩ := Prod.mk.inj (Option.some.inj h)
    exact ⟨left, rfl⟩
  | case3 c left hbrace ih =>
    have hleft := hcalm.suffix (List.suffix_cons c left)
    rw [List.cons_append, takeBraced, if_neg hbrace, skip_append hleft] at h
    obtain ⟨⟨inside', rest'⟩, hrest, heq⟩ := Option.map_eq_some_iff.mp h
    obtain ⟨rfl, rfl⟩ := Prod.mk.inj heq
    obtain ⟨left', hbraced⟩ := ih (hleft.suffix (skip_suffix flags left)) hrest
      fun hmem => hinside (List.mem_cons_of_mem c hmem)
    exact ⟨left', by rw [hbraced]; rfl⟩

theorem takeHex_some {n : Nat} {digits : List Char} (hcalm : IsCalm flags s)
    (h : takeHex flags n s = some (digits, rest)) :
    rest <:+ s ∧ ∀ w, takeHex flags n (s ++ ')' :: w) = some (digits, rest ++ ')' :: w) := by
  fun_induction takeHex flags n s generalizing digits with
  | case1 s =>
    obtain ⟨rfl, rfl⟩ := Prod.mk.inj (Option.some.inj h)
    exact ⟨List.suffix_rfl, fun w => by rw [takeHex]⟩
  | case2 => cases h
  | case3 n c left hdigit ih =>
    obtain ⟨⟨digits', rest'⟩, hrest, heq⟩ := Option.map_eq_some_iff.mp h
    obtain ⟨rfl, rfl⟩ := Prod.mk.inj heq
    have hleft := hcalm.suffix (List.suffix_cons c left)
    obtain ⟨hsuffix, hagain⟩ := ih (hleft.suffix (skip_suffix flags left)) hrest
    refine ⟨(hsuffix.trans (skip_suffix flags left)).trans (List.suffix_cons c left), fun w => ?_⟩
    rw [List.cons_append, takeHex, if_pos hdigit, skip_append hleft, hagain]
    rfl
  | case4 => cases h

theorem takeHex_reflect {n : Nat} {digits w : List Char} (hcalm : IsCalm flags s)
    (h : takeHex flags n (s ++ ')' :: w) = some (digits, rest)) :
    ∃ left, takeHex flags n s = some (digits, left) := by
  fun_induction takeHex flags n s generalizing digits with
  | case1 s =>
    rw [takeHex] at h
    obtain ⟨rfl, rfl⟩ := Prod.mk.inj (Option.some.inj h)
    exact ⟨s, rfl⟩
  | case2 n =>
    rw [List.nil_append, takeHex, if_neg (by decide)] at h
    cases h
  | case3 n c left hdigit ih =>
    have hleft := hcalm.suffix (List.suffix_cons c left)
    rw [List.cons_append, takeHex, if_pos hdigit, skip_append hleft] at h
    obtain ⟨⟨digits', rest'⟩, hrest, heq⟩ := Option.map_eq_some_iff.mp h
    obtain ⟨rfl, rfl⟩ := Prod.mk.inj heq
    obtain ⟨left', hhex⟩ := ih (hleft.suffix (skip_suffix flags left)) hrest
    exact ⟨left', by rw [hhex]; rfl⟩
  | case4 n c left hdigit =>
    rw [List.cons_append, takeHex, if_neg hdigit] at h
    cases h

theorem isLocal_takeCode (flags : Flags) (width : Nat) : IsLocal flags (takeCode flags width) := by
  intro s a rest hcalm hread
  have hskip := skip_suffix flags s
  simp only [takeCode, skip_append hcalm] at hread ⊢
  split at hread
  · next t hbrace =>
    have ht := (List.suffix_cons '\x7b' t).trans (hbrace ▸ hskip)
    simp only [hbrace, List.cons_append, skip_append (hcalm.suffix ht)]
    split at hread
    · next digits left htake =>
      cases hread
      have hinside := (skip_suffix flags t).trans ht
      obtain ⟨hsuffix, hagain⟩ := takeBraced_some (hcalm.suffix hinside) htake
      exact ⟨hsuffix.trans hinside, fun w => by rw [hagain]⟩
    · cases hread
  · next t hplain =>
    split at hread
    · next digits left htake =>
      cases hread
      obtain ⟨hsuffix, hagain⟩ := takeHex_some (hcalm.suffix hskip) htake
      refine ⟨hsuffix.trans hskip, fun w => ?_⟩
      split
      · next u heq =>
        obtain ⟨v, hv, -⟩ := eq_cons_of_append_paren (by decide) heq
        exact (hplain v hv).elim
      · rw [hagain]
    · cases hread

theorem takeCode_reflect {width : Nat} {digits w : List Char} {isByte : Bool}
    (hcalm : IsCalm flags s)
    (h : takeCode flags width (s ++ ')' :: w) = .ok ((digits, isByte), rest))
    (hdigits : ')' ∉ digits) : ∃ left, takeCode flags width s = .ok ((digits, isByte), left) := by
  have hskip := skip_suffix flags s
  simp only [takeCode, skip_append hcalm] at h ⊢
  split at h
  · next t hbrace =>
    obtain ⟨u, hu, rfl⟩ := eq_cons_of_append_paren (by decide) hbrace
    have ht := (List.suffix_cons '\x7b' u).trans (hu ▸ hskip)
    rw [skip_append (hcalm.suffix ht)] at h
    simp only [hu]
    split at h
    · next digits' left htake =>
      cases h
      obtain ⟨left', hleft⟩ := takeBraced_reflect
        (hcalm.suffix ((skip_suffix flags u).trans ht)) htake hdigits
      exact ⟨left', by rw [hleft]⟩
    · cases h
  · next hplain =>
    split at h
    · next digits' left htake =>
      cases h
      obtain ⟨left', hleft⟩ := takeHex_reflect (hcalm.suffix hskip) htake
      refine ⟨left', ?_⟩
      split
      · next u hu => exact (hplain (u ++ ')' :: w) (by rw [hu]; rfl)).elim
      · rw [hleft]
    · cases h

theorem paren_notMem_of_charOfDigits {digits : List Char} {isByte : Bool}
    (h : charOfDigits flags digits isByte = .ok c) : ')' ∉ digits := by
  intro hmem
  have hany : digits.any (fun c => (Unicode.hexDigit? c).isNone) = true :=
    List.any_eq_true.mpr ⟨')', hmem, by decide⟩
  rw [charOfDigits, hany, Bool.or_true, if_pos rfl] at h
  cases h

theorem isLocal_readCode (flags : Flags) (width : Nat) : IsLocal flags (readCode flags width) := by
  intro s a rest hcalm hread
  obtain ⟨⟨⟨digits, isByte⟩, left⟩, htake, hread⟩ := Except.bind_eq_ok.mp hread
  obtain ⟨c, hc, hread⟩ := Except.bind_eq_ok.mp hread
  cases hread
  obtain ⟨hsuffix, hagain⟩ := isLocal_takeCode flags width hcalm htake
  refine ⟨(skip_suffix flags left).trans hsuffix, fun w => ?_⟩
  refine Except.bind_eq_ok.mpr ⟨_, hagain w, Except.bind_eq_ok.mpr ⟨c, hc, ?_⟩⟩
  rw [skip_append (hcalm.suffix hsuffix)]
  rfl

theorem stopsShort_readCode (flags : Flags) (width : Nat) :
    StopsShort flags (readCode flags width) := by
  intro s w a rest hcalm hread
  obtain ⟨⟨⟨digits, isByte⟩, left⟩, htake, hread⟩ := Except.bind_eq_ok.mp hread
  obtain ⟨c, hc, hread⟩ := Except.bind_eq_ok.mp hread
  cases hread
  obtain ⟨left', hleft⟩ := takeCode_reflect hcalm htake (paren_notMem_of_charOfDigits hc)
  exact ⟨_, Except.bind_eq_ok.mpr ⟨_, hleft, Except.bind_eq_ok.mpr ⟨c, hc, rfl⟩⟩⟩

theorem isLocal_takePropertyName (flags : Flags) : IsLocal flags (takePropertyName flags) := by
  intro s a rest hcalm hread
  have hskip := skip_suffix flags s
  simp only [takePropertyName, skip_append hcalm] at hread ⊢
  split at hread
  · cases hread
  · next t hbrace =>
    have ht := (List.suffix_cons '\x7b' t).trans (hbrace ▸ hskip)
    simp only [hbrace, List.cons_append, skip_append (hcalm.suffix ht)]
    split at hread
    · next found htake =>
      cases hread
      have hinside := (skip_suffix flags t).trans ht
      obtain ⟨hsuffix, hagain⟩ := takeBraced_some (hcalm.suffix hinside) htake
      exact ⟨hsuffix.trans hinside, fun w => by rw [hagain]⟩
    · cases hread
  · next c t hbrace hletter =>
    have ht := (List.suffix_cons c t).trans (hletter ▸ hskip)
    split at hread
    · cases hread
    · next hslash =>
      cases hread
      refine ⟨(skip_suffix flags t).trans ht, fun w => ?_⟩
      rw [hletter, List.cons_append]
      split
      · next heq => cases heq
      · next u heq => exact (hbrace ((List.cons.inj heq).1)).elim
      · next d u hne heq =>
        obtain ⟨rfl, rfl⟩ := List.cons.inj heq
        rw [if_neg hslash, skip_append (hcalm.suffix ht)]

theorem takePropertyName_reflect {name w : List Char} (hcalm : IsCalm flags s)
    (h : takePropertyName flags (s ++ ')' :: w) = .ok (name, rest)) (hname : ')' ∉ name) :
    ∃ left, takePropertyName flags s = .ok (name, left) := by
  have hskip := skip_suffix flags s
  simp only [takePropertyName, skip_append hcalm] at h ⊢
  cases hs : flags.skip s with
  | nil =>
    rw [hs] at h
    cases h
    exact (hname List.mem_cons_self).elim
  | cons c t =>
    rw [hs] at h hskip
    have ht := (List.suffix_cons c t).trans hskip
    by_cases hbrace : c = '\x7b'
    · subst hbrace
      simp only [List.cons_append, skip_append (hcalm.suffix ht)] at h ⊢
      split at h
      · next found htake =>
        cases h
        obtain ⟨left, hleft⟩ := takeBraced_reflect
          (hcalm.suffix ((skip_suffix flags t).trans ht)) htake hname
        exact ⟨left, by rw [hleft]⟩
      · cases h
    · simp only [List.cons_append] at h ⊢
      split at h
      · cases h
      · next hslash =>
        cases h
        exact ⟨_, if_neg hslash⟩

theorem mem_of_splitAtMark {mark before after name : List Char} (hc : c ∉ mark)
    (h : splitAtMark mark name = some (before, after)) (hmem : c ∈ name) :
    c ∈ before ∨ c ∈ after := by
  induction name generalizing before with
  | nil => cases hmem
  | cons d s ih =>
    rw [splitAtMark] at h
    split at h
    · next hprefix =>
      obtain ⟨rfl, rfl⟩ := Prod.mk.inj (Option.some.inj h)
      obtain ⟨u, hu⟩ := List.isPrefixOf_iff_prefix.mp hprefix
      rw [← hu, List.drop_left]
      rw [← hu, List.mem_append] at hmem
      exact .inr (hmem.resolve_left hc)
    · obtain ⟨⟨before', after'⟩, hrest, heq⟩ := Option.map_eq_some_iff.mp h
      obtain ⟨rfl, rfl⟩ := Prod.mk.inj heq
      rcases List.mem_cons.mp hmem with rfl | hmem
      · exact .inl List.mem_cons_self
      · exact (ih hrest hmem).imp_left (List.mem_cons_of_mem d)

theorem propertyNamed?_of_paren {name : List Char} (h : ')' ∈ name) :
    propertyNamed? name = none := by
  have hmark : ∀ {mark before after : List Char}, ')' ∉ mark →
      splitAtMark mark name = some (before, after) →
      Unicode.Property.ofNameAndValue? before after = none := fun hmark hsplit =>
    Unicode.Property.ofNameAndValue?_of_paren (mem_of_splitAtMark hmark hsplit h)
  unfold propertyNamed?
  split
  · next key value heq =>
    rcases Option.or_eq_some_iff.mp heq with heq | ⟨-, heq⟩
    · exact hmark (by decide) heq
    · rcases Option.or_eq_some_iff.mp heq with heq | ⟨-, heq⟩
      · exact hmark (by decide) heq
      · exact hmark (by decide) heq
  · exact Unicode.Property.ofName?_of_paren h

theorem paren_notMem_of_propertySet {negated : Bool} {name : List Char} {set : CharSet}
    (h : propertySet flags negated name = .ok set) : ')' ∉ name := by
  intro hmem
  rw [propertySet, propertyNamed?_of_paren hmem] at h
  split at h <;> cases h

theorem isLocal_readProperty (flags : Flags) (negated : Bool) :
    IsLocal flags (readProperty flags negated) := by
  intro s a rest hcalm hread
  obtain ⟨⟨name, left⟩, htake, hread⟩ := Except.bind_eq_ok.mp hread
  obtain ⟨set, hset, hread⟩ := Except.bind_eq_ok.mp hread
  cases hread
  obtain ⟨hsuffix, hagain⟩ := isLocal_takePropertyName flags hcalm htake
  exact ⟨hsuffix, fun w =>
    Except.bind_eq_ok.mpr ⟨_, hagain w, Except.bind_eq_ok.mpr ⟨set, hset, rfl⟩⟩⟩

theorem stopsShort_readProperty (flags : Flags) (negated : Bool) :
    StopsShort flags (readProperty flags negated) := by
  intro s w a rest hcalm hread
  obtain ⟨⟨name, left⟩, htake, hread⟩ := Except.bind_eq_ok.mp hread
  obtain ⟨set, hset, hread⟩ := Except.bind_eq_ok.mp hread
  cases hread
  obtain ⟨left', hleft⟩ := takePropertyName_reflect hcalm htake (paren_notMem_of_propertySet hset)
  exact ⟨left', Except.bind_eq_ok.mpr ⟨_, hleft, Except.bind_eq_ok.mpr ⟨set, hset, rfl⟩⟩⟩

theorem head?_any_append_paren {p : Char → Bool} (hp : p ')' = false) (s w : List Char) :
    (s ++ ')' :: w).head?.any p = s.head?.any p := by
  cases s with
  | nil => exact hp
  | cons c s => rfl

theorem isLocal_readWordEdge (flags : Flags) : IsLocal flags (readWordEdge flags) := by
  intro s a rest hcalm hread
  unfold readWordEdge at hread ⊢
  split at hread
  · next inside =>
    have hinside := List.suffix_cons '\x7b' inside
    have hskip := (skip_suffix flags inside).trans hinside
    simp only [List.cons_append, skip_append (hcalm.suffix hinside),
      head?_any_append_paren (p := isEdgeNameChar) (by decide)]
    split at hread
    · next hletter =>
      split at hread
      · cases hread
      · next name left htake =>
        obtain ⟨hsuffix, hagain⟩ := takeBraced_some (hcalm.suffix hskip) htake
        simp only [if_pos hletter, hagain]
        split at hread
        · cases hread
          exact ⟨hsuffix.trans hskip, fun w => rfl⟩
        · cases hread
    · next hplain =>
      cases hread
      exact ⟨List.suffix_rfl, fun w => if_neg hplain⟩
  · next hplain =>
    cases hread
    refine ⟨List.suffix_rfl, fun w => ?_⟩
    split
    · next u heq =>
      obtain ⟨v, rfl, -⟩ := eq_cons_of_append_paren (by decide) heq
      exact (hplain v rfl).elim
    · rfl

theorem paren_notMem_of_edgeNamed? {name : List Char} {edge : WordEdge}
    (h : edgeNamed? name = some edge) : ')' ∉ name := by
  have hname : ∀ {text : String}, String.ofList name = text → ')' ∉ text.toList → ')' ∉ name := by
    rintro text rfl hmem
    rwa [String.toList_ofList] at hmem
  unfold edgeNamed? at h
  split at h
  case h_5 => cases h
  all_goals next heq => exact hname heq (by decide)

theorem stopsShort_readWordEdge (flags : Flags) : StopsShort flags (readWordEdge flags) := by
  intro s w a rest hcalm hread
  unfold readWordEdge at hread ⊢
  split at hread
  · next t heq =>
    obtain ⟨inside, rfl, rfl⟩ := eq_cons_of_append_paren (by decide) heq
    have hinside := List.suffix_cons '\x7b' inside
    have hskip := (skip_suffix flags inside).trans hinside
    simp only [skip_append (hcalm.suffix hinside),
      head?_any_append_paren (p := isEdgeNameChar) (by decide)] at hread
    split at hread
    · next hletter =>
      split at hread
      · cases hread
      · next name left htake =>
        split at hread
        · next edge hedge =>
          cases hread
          obtain ⟨left', hleft⟩ := takeBraced_reflect (hcalm.suffix hskip) htake
            (paren_notMem_of_edgeNamed? hedge)
          exact ⟨left', by simp only [if_pos hletter, hleft, hedge]⟩
        · cases hread
    · next hplain =>
      cases hread
      exact ⟨_, if_neg hplain⟩
  · next hplain =>
    cases hread
    split
    · next u => exact (hplain (u ++ ')' :: w) rfl).elim
    · exact ⟨s, rfl⟩

theorem isLocal_readEscape (flags : Flags) : IsLocal flags (readEscape flags) := by
  intro s a rest hcalm hread
  cases s with
  | nil => cases hread
  | cons c t =>
    have htail := List.suffix_cons c t
    have ht := hcalm.suffix htail
    have hcode : ∀ width, readCode flags width t = .ok (a, rest) → rest <:+ c :: t ∧
        ∀ w, readCode flags width (t ++ ')' :: w) = .ok (a, rest ++ ')' :: w) := fun width h =>
      (isLocal_readCode flags width ht h).imp_left (·.trans htail)
    have hproperty : ∀ negated, readProperty flags negated t = .ok (a, rest) → rest <:+ c :: t ∧
        ∀ w, readProperty flags negated (t ++ ')' :: w) = .ok (a, rest ++ ')' :: w) :=
      fun negated h => (isLocal_readProperty flags negated ht h).imp_left (·.trans htail)
    rw [readEscape.eq_def] at hread
    split at hread
    · next heq => cases heq
    · next heq => cases heq; exact hcode 2 hread
    · next heq => cases heq; exact hcode 4 hread
    · next heq => cases heq; exact hcode 8 hread
    · next heq => cases heq; exact hproperty false hread
    · next heq => cases heq; exact hproperty true hread
    · next heq =>
      cases heq
      obtain ⟨⟨kind, left⟩, hedge, hread⟩ := Except.bind_eq_ok.mp hread
      cases hread
      obtain ⟨hsuffix, hagain⟩ := isLocal_readWordEdge flags ht hedge
      exact ⟨hsuffix.trans htail, fun w => Except.bind_eq_ok.mpr ⟨_, hagain w, rfl⟩⟩
    · next d u hx hu hU hp hP hb heq =>
      cases heq
      obtain ⟨atom, hatom, hread⟩ := Except.bind_eq_ok.mp hread
      cases hread
      refine ⟨htail, fun w => ?_⟩
      rw [List.cons_append, readEscape]
      · exact Except.bind_eq_ok.mpr ⟨_, hatom, rfl⟩
      all_goals assumption

/-- A backslash that ends a text makes the parenthesis behind it a character. -/
theorem readEscape_reflect {w : List Char} {a : Atom} (hcalm : IsCalm flags s)
    (hread : readEscape flags (s ++ ')' :: w) = .ok (a, rest)) :
    (∃ left, readEscape flags s = .ok (a, left)) ∨
      ∀ w, readEscape flags (s ++ ')' :: w) = .ok (a, w) := by
  cases s with
  | nil =>
    obtain ⟨atom, hatom, hread⟩ := Except.bind_eq_ok.mp hread
    cases hread
    exact .inr fun w => Except.bind_eq_ok.mpr ⟨_, hatom, rfl⟩
  | cons c t =>
    have ht := hcalm.suffix (List.suffix_cons c t)
    refine .inl ?_
    rw [List.cons_append, readEscape.eq_def] at hread
    split at hread
    · next heq => cases heq
    · next heq => cases heq; exact stopsShort_readCode flags 2 ht hread
    · next heq => cases heq; exact stopsShort_readCode flags 4 ht hread
    · next heq => cases heq; exact stopsShort_readCode flags 8 ht hread
    · next heq => cases heq; exact stopsShort_readProperty flags false ht hread
    · next heq => cases heq; exact stopsShort_readProperty flags true ht hread
    · next heq =>
      cases heq
      obtain ⟨⟨kind, left⟩, hedge, hread⟩ := Except.bind_eq_ok.mp hread
      cases hread
      obtain ⟨left', hleft⟩ := stopsShort_readWordEdge flags ht hedge
      exact ⟨left', Except.bind_eq_ok.mpr ⟨_, hleft, rfl⟩⟩
    · next d u hx hu hU hp hP hb heq =>
      cases heq
      obtain ⟨atom, hatom, hread⟩ := Except.bind_eq_ok.mp hread
      cases hread
      refine ⟨t, ?_⟩
      rw [readEscape]
      · exact Except.bind_eq_ok.mpr ⟨_, hatom, rfl⟩
      all_goals assumption

end Conformance.Regex
