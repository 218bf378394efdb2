import Conformance.Proofs.Time.Stamp

/-!
# The search for stamps

An identifier is searched from the left for pieces that look like a stamp, and no piece is found that
overlaps one found before it. Of the pieces that say a moment the last one counts. That is the last
stamp of the identifier, unless a piece that is found before it runs into its year.
-/
namespace Conformance.Stamp

variable {s ps : List Char} {t : Moment} {p q : Nat}

/-! ## What a stamp says -/

/-- The text says the moment: it has the form `YYYY-MM-DD_HHMM`, in ASCII digits, and there is such
a date and such a time of day. -/
def Says (s : List Char) (t : Moment) : Prop :=
  ∃ year month day hour minute,
    s = joined year month day hour minute ∧ IsNumber 4 year ∧ IsNumber 2 month ∧ IsNumber 2 day ∧
    IsNumber 2 hour ∧ IsNumber 2 minute ∧
    t = ⟨Nat.ofDigitChars 10 year 0, Nat.ofDigitChars 10 month 0, Nat.ofDigitChars 10 day 0,
      Nat.ofDigitChars 10 hour 0, Nat.ofDigitChars 10 minute 0, 0⟩ ∧
    t.isReal = true

theorem isDigit_of_number? {n : Nat} (h : number? s = some n) : ∀ c ∈ s, c.isDigit = true := by
  have hfold : ∀ (s : List Char) (m : Nat), s.foldlM (fun n c =>
      if c.isDigit then some (10 * n + (c.toNat - '0'.toNat)) else none) m = some n →
        ∀ c ∈ s, c.isDigit = true := by
    intro s
    induction s with
    | nil => simp
    | cons c s ih =>
      intro m h
      rw [List.foldlM_cons] at h
      split at h
      · next hc => exact List.forall_mem_cons.mpr ⟨hc, ih _ h⟩
      · cases h
  exact hfold s 0 h

theorem IsNumber.number? {width : Nat} (h : IsNumber width s) :
    Stamp.number? s = some (Nat.ofDigitChars 10 s 0) :=
  number?_eq h.2

theorem exists_of_fits {width : Nat} {mark : Char} (hmark : (mark == 'd') = false)
    (h : fits (List.replicate width 'd' ++ mark :: ps) s = true) :
    ∃ digits rest, s = digits ++ mark :: rest ∧ digits.length = width ∧ fits ps rest = true := by
  induction width generalizing s with
  | zero =>
    cases s with
    | nil => cases h
    | cons c s =>
      rw [List.replicate_zero, List.nil_append, fits_cons, hmark, if_neg Bool.false_ne_true,
        Bool.and_eq_true, beq_iff_eq] at h
      exact ⟨[], s, by rw [h.1]; rfl, rfl, h.2⟩
  | succ width ih =>
    cases s with
    | nil => cases h
    | cons c s =>
      rw [List.replicate_succ, List.cons_append, fits_cons, Bool.and_eq_true] at h
      obtain ⟨digits, rest, rfl, hlen, hrest⟩ := ih h.2
      exact ⟨c :: digits, rest, rfl, by rw [List.length_cons, hlen], hrest⟩

theorem exists_joined (hfits : fits shape s = true) (hlen : s.length = shape.length) :
    ∃ year month day hour minute, s = joined year month day hour minute ∧ year.length = 4 ∧
      month.length = 2 ∧ day.length = 2 ∧ hour.length = 2 ∧ minute.length = 2 := by
  rw [shape_split] at hfits
  obtain ⟨year, s₁, rfl, hyear, hfits⟩ := exists_of_fits (by decide) hfits
  obtain ⟨month, s₂, rfl, hmonth, hfits⟩ := exists_of_fits (by decide) hfits
  obtain ⟨day, s₃, rfl, hday, hfits⟩ := exists_of_fits (by decide) hfits
  have hrest : s₃.length = 4 := by
    have hshape : shape.length = 15 := rfl
    simp only [List.length_append, List.length_cons] at hlen
    omega
  refine ⟨year, month, day, s₃.take 2, s₃.drop 2, ?_, hyear, hmonth, hday, ?_, ?_⟩
  · rw [joined, List.take_append_drop]
  · rw [List.length_take, hrest]
    rfl
  · rw [List.length_drop, hrest]

/-- A text says a moment if it looks like a stamp and is read as that moment. -/
theorem says_iff : Says s t ↔
    fits shape s = true ∧ s.length = shape.length ∧ moment? s = some t := by
  constructor
  · rintro ⟨year, month, day, hour, minute, rfl, hyear, hmonth, hday, hhour, hminute, ht, hreal⟩
    refine ⟨fits_joined hyear hmonth hday hhour hminute, ?_, ?_⟩
    · exact length_joined hyear.1 hmonth.1 hday.1 hhour.1 hminute.1
    · rw [moment?_joined hyear.1 hmonth.1 hday.1 hhour.1 hminute.1, hyear.number?, hmonth.number?,
        hday.number?, hhour.number?, hminute.number?]
      rw [ht] at hreal ⊢
      exact if_pos hreal
  · rintro ⟨hfits, hlen, hmoment⟩
    obtain ⟨year, month, day, hour, minute, rfl, hyear, hmonth, hday, hhour, hminute⟩ :=
      exists_joined hfits hlen
    rw [moment?_joined hyear hmonth hday hhour hminute] at hmoment
    simp only [Option.bind_eq_bind, Option.bind_eq_some_iff] at hmoment
    obtain ⟨y, hy, m, hm, d, hd, h, hh, n, hn, hmoment⟩ := hmoment
    have hyear' : IsNumber 4 year := ⟨hyear, isDigit_of_number? hy⟩
    have hmonth' : IsNumber 2 month := ⟨hmonth, isDigit_of_number? hm⟩
    have hday' : IsNumber 2 day := ⟨hday, isDigit_of_number? hd⟩
    have hhour' : IsNumber 2 hour := ⟨hhour, isDigit_of_number? hh⟩
    have hminute' : IsNumber 2 minute := ⟨hminute, isDigit_of_number? hn⟩
    cases hyear'.number?.symm.trans hy
    cases hmonth'.number?.symm.trans hm
    cases hday'.number?.symm.trans hd
    cases hhour'.number?.symm.trans hh
    cases hminute'.number?.symm.trans hn
    split at hmoment
    · next hreal =>
      cases hmoment
      exact ⟨year, month, day, hour, minute, rfl, hyear', hmonth', hday', hhour', hminute', rfl,
        hreal⟩
    · cases hmoment

/-! ## Stamps by their places -/

def StampAt (s : List Char) (p : Nat) (t : Moment) : Prop :=
  Says ((s.drop p).take 15) t

def IsLast (s : List Char) (p : Nat) (t : Moment) : Prop :=
  StampAt s p t ∧ ∀ q u, p < q → ¬ StampAt s q u

/-- At the place is a piece that looks like a stamp, and no piece found before overlaps it. -/
def IsFound (s : List Char) (p : Nat) : Prop :=
  fits shape (s.drop p) = true ∧ ∀ q, q < p → p < q + 15 → ¬ IsFound s q
termination_by p

def IsLastFound (s : List Char) (p : Nat) (t : Moment) : Prop :=
  IsFound s p ∧ StampAt s p t ∧ ∀ q u, p < q → IsFound s q → ¬ StampAt s q u

theorem fits_take (h : fits ps s = true) : fits ps (s.take ps.length) = true := by
  induction ps generalizing s with
  | nil => rfl
  | cons p ps ih =>
    cases s with
    | nil => cases h
    | cons c s =>
      rw [fits_cons, Bool.and_eq_true] at h
      rw [List.length_cons, List.take_succ_cons, fits_cons, h.1, ih h.2]
      rfl

theorem stampAt_iff : StampAt s p t ↔
    fits shape (s.drop p) = true ∧ moment? ((s.drop p).take shape.length) = some t := by
  have hshape : shape.length = 15 := rfl
  rw [StampAt, ← hshape, says_iff]
  constructor
  · rintro ⟨hfits, -, hmoment⟩
    have hall := fits_append hfits ((s.drop p).drop shape.length)
    rw [List.take_append_drop] at hall
    exact ⟨hall, hmoment⟩
  · rintro ⟨hfits, hmoment⟩
    refine ⟨fits_take hfits, ?_, hmoment⟩
    rw [List.length_take, min_eq_left (length_le_of_fits hfits)]

theorem StampAt.add_le_length (h : StampAt s p t) : p + 15 ≤ s.length := by
  have hlen := length_le_of_fits (stampAt_iff.mp h).1
  have hshape : shape.length = 15 := rfl
  rw [List.length_drop] at hlen
  omega

theorem exists_isLast (s : List Char) (p : Nat) (t : Moment) (h : StampAt s p t) :
    ∃ q u, IsLast s q u := by
  by_cases hlast : ∃ q u, p < q ∧ StampAt s q u
  · obtain ⟨q, u, hlt, hq⟩ := hlast
    have hle := hq.add_le_length
    exact exists_isLast s q u hq
  · exact ⟨p, t, h, fun q u hlt hq => hlast ⟨q, u, hlt, hq⟩⟩
termination_by s.length - p

/-! ## What the search finds -/

/-- The search has come to a place, and passes over the next `skip` characters: no piece found so far
reaches further than these, and if there are any, one does reach to their end. -/
structure HasComeTo (s : List Char) (skip p : Nat) : Prop where
  within : ∀ q < p, IsFound s q → q + 15 ≤ p + skip
  inside : 0 < skip → ∃ q < p, IsFound s q ∧ p + skip ≤ q + 15

theorem hasComeTo_start (s : List Char) : HasComeTo s 0 0 :=
  ⟨fun q hq => absurd hq (Nat.not_lt_zero q), fun h => absurd h (Nat.lt_irrefl 0)⟩

theorem HasComeTo.skipped {skip : Nat} (h : HasComeTo s (skip + 1) p) :
    ¬ IsFound s p ∧ HasComeTo s skip (p + 1) := by
  obtain ⟨q, hlt, hq, hreach⟩ := h.inside (Nat.succ_pos skip)
  have hnot : ¬ IsFound s p := by
    intro hp
    rw [IsFound] at hp
    exact hp.2 q hlt (by omega) hq
  refine ⟨hnot, ⟨?_, fun _ => ⟨q, by omega, hq, by omega⟩⟩⟩
  intro r hr hfound
  rcases Nat.lt_succ_iff_lt_or_eq.mp hr with hr | rfl
  · have := h.within r hr hfound
    omega
  · exact absurd hfound hnot

theorem HasComeTo.find (h : HasComeTo s 0 p) (hfits : fits shape (s.drop p) = true) :
    IsFound s p ∧ HasComeTo s 14 (p + 1) := by
  have hp : IsFound s p := by
    rw [IsFound]
    refine ⟨hfits, fun q hlt hnear hq => ?_⟩
    have := h.within q hlt hq
    omega
  refine ⟨hp, ⟨?_, fun _ => ⟨p, Nat.lt_succ_self p, hp, by omega⟩⟩⟩
  intro r hr hfound
  rcases Nat.lt_succ_iff_lt_or_eq.mp hr with hr | rfl
  · have := h.within r hr hfound
    omega
  · omega

theorem HasComeTo.pass (h : HasComeTo s 0 p) (hfits : fits shape (s.drop p) = false) :
    ¬ IsFound s p ∧ HasComeTo s 0 (p + 1) := by
  have hnot : ¬ IsFound s p := by
    intro hp
    rw [IsFound, hfits] at hp
    exact Bool.false_ne_true hp.1
  refine ⟨hnot, ⟨?_, fun h => absurd h (Nat.lt_irrefl 0)⟩⟩
  intro r hr hfound
  rcases Nat.lt_succ_iff_lt_or_eq.mp hr with hr | rfl
  · have := h.within r hr hfound
    omega
  · exact absurd hfound hnot

theorem le_and_isFound_iff (h : ¬ IsFound s p) :
    p ≤ q ∧ IsFound s q ↔ p + 1 ≤ q ∧ IsFound s q := by
  refine and_congr_left fun hq => ⟨fun hle => ?_, Nat.le_of_succ_le⟩
  refine lt_of_le_of_ne hle ?_
  rintro rfl
  exact h hq

/-- The pieces that the search passes from a place on are those that are found there, in order. -/
theorem candidates_eq_map {skip : Nat} (h : HasComeTo s skip p) :
    ∃ places : List Nat, places.Pairwise (· < ·) ∧
      (∀ q, q ∈ places ↔ p ≤ q ∧ IsFound s q) ∧
      candidates skip (s.drop p) = places.map fun q => (s.drop q).take shape.length := by
  generalize hrest : s.drop p = rest
  induction rest generalizing skip p with
  | nil =>
    refine ⟨[], .nil, fun q => ?_, rfl⟩
    simp only [List.not_mem_nil, false_iff, not_and]
    intro hle hq
    have hnil : s.drop q = [] := List.drop_eq_nil_iff.mpr ((List.drop_eq_nil_iff.mp hrest).trans hle)
    rw [IsFound, hnil] at hq
    exact Bool.false_ne_true hq.1
  | cons c rest ih =>
    have hnext : s.drop (p + 1) = rest := by
      rw [← List.drop_drop, hrest]
      rfl
    cases skip with
    | succ skip =>
      obtain ⟨hnot, hcome⟩ := h.skipped
      obtain ⟨places, hsorted, hmem, hcandidates⟩ := ih hcome hnext
      exact ⟨places, hsorted, fun q => (hmem q).trans (le_and_isFound_iff hnot).symm, hcandidates⟩
    | zero =>
      cases hfits : fits shape (s.drop p) with
      | false =>
        obtain ⟨hnot, hcome⟩ := h.pass hfits
        obtain ⟨places, hsorted, hmem, hcandidates⟩ := ih hcome hnext
        refine ⟨places, hsorted, fun q => (hmem q).trans (le_and_isFound_iff hnot).symm, ?_⟩
        rw [candidates_zero, ← hrest, hfits]
        exact hcandidates
      | true =>
        obtain ⟨hp, hcome⟩ := h.find hfits
        obtain ⟨places, hsorted, hmem, hcandidates⟩ := ih hcome hnext
        refine ⟨p :: places, ?_, fun q => ?_, ?_⟩
        · exact List.pairwise_cons.mpr ⟨fun q hq => ((hmem q).mp hq).1, hsorted⟩
        · rw [List.mem_cons, hmem q]
          constructor
          · rintro (rfl | ⟨hle, hq⟩)
            · exact ⟨le_rfl, hp⟩
            · exact ⟨Nat.le_of_succ_le hle, hq⟩
          · rintro ⟨hle, hq⟩
            rcases hle.eq_or_lt with rfl | hlt
            · exact .inl rfl
            · exact .inr ⟨hlt, hq⟩
        · rw [candidates_zero, if_pos (hrest ▸ hfits), List.map_cons, ← hcandidates, hrest]
          rfl

theorem getLast?_filterMap_eq_some {β : Type} {f : Nat → Option β} {b : β} {places : List Nat}
    (h : places.Pairwise (· < ·)) : (places.filterMap f).getLast? = some b ↔
      ∃ p ∈ places, f p = some b ∧ ∀ q ∈ places, p < q → f q = none := by
  rw [List.getLast?_filterMap, List.findSome?_eq_some_iff]
  constructor
  · rintro ⟨later, p, earlier, hplaces, hp, hlater⟩
    have hdescending := List.pairwise_reverse.mpr h
    rw [hplaces] at hdescending
    have hbefore := (List.pairwise_cons.mp (List.pairwise_append.mp hdescending).2.1).1
    have hmem : ∀ q, q ∈ places ↔ q ∈ later ∨ q = p ∨ q ∈ earlier := by
      intro q
      rw [← List.mem_reverse, hplaces, List.mem_append, List.mem_cons]
    refine ⟨p, (hmem p).mpr (.inr (.inl rfl)), hp, fun q hq hlt => ?_⟩
    rcases (hmem q).mp hq with hq | rfl | hq
    · exact hlater q hq
    · exact absurd hlt (lt_irrefl _)
    · exact absurd hlt (hbefore q hq).asymm
  · rintro ⟨p, hmem, hp, hnone⟩
    obtain ⟨earlier, later, rfl⟩ := List.append_of_mem hmem
    have hbehind := (List.pairwise_cons.mp (List.pairwise_append.mp h).2.1).1
    refine ⟨later.reverse, p, earlier.reverse, by simp, hp, fun q hq => ?_⟩
    rw [List.mem_reverse] at hq
    exact hnone q (by simp [hq]) (hbehind q hq)

/-- What is read from an identifier is the last stamp that the search finds. -/
theorem parse_eq_some_iff {id : String} :
    parse id = some t ↔ ∃ p, IsLastFound id.toList p t := by
  obtain ⟨places, hsorted, hmem, hcandidates⟩ := candidates_eq_map (hasComeTo_start id.toList)
  have hstamp : ∀ p u, IsFound id.toList p →
      (moment? ((id.toList.drop p).take shape.length) = some u ↔ StampAt id.toList p u) := by
    intro p u hp
    rw [IsFound] at hp
    rw [stampAt_iff, hp.1]
    simp
  rw [List.drop_zero] at hcandidates
  rw [parse, hcandidates, List.filterMap_map, getLast?_filterMap_eq_some hsorted]
  refine exists_congr fun p => ?_
  rw [hmem, IsLastFound, and_iff_right (Nat.zero_le p)]
  refine and_congr_right fun hp => and_congr (hstamp p t hp) ?_
  constructor
  · intro hnone q u hlt hq hu
    have hmoment := hnone q ((hmem q).mpr ⟨Nat.zero_le q, hq⟩) hlt
    exact Option.some_ne_none u (((hstamp q u hq).mpr hu).symm.trans hmoment)
  · intro hnone q hq hlt
    have hq := ((hmem q).mp hq).2
    refine Option.eq_none_iff_forall_ne_some.mpr fun u hu => ?_
    exact hnone q u hlt hq ((hstamp q u hq).mp hu)

/-! ## Where the last stamp is read -/

/-- What is read from an identifier is its last stamp, if it has a stamp at all. -/
def ReadsLast (id : String) : Prop :=
  (∀ t, parse id = some t ↔ ∃ p, IsLast id.toList p t) ∧
    (parse id = none ↔ ∀ p t, ¬ StampAt id.toList p t)

/-- The last stamp of an identifier is read exactly if no piece found before it overlaps it, unless
the last stamp that is found says the same. -/
theorem readsLast_iff (id : String) : ReadsLast id ↔ ∀ p t, IsLast id.toList p t →
    IsFound id.toList p ∨ ∃ q < p, IsLastFound id.toList q t := by
  constructor
  · rintro ⟨hsome, -⟩ p t hlast
    obtain ⟨q, hq⟩ := parse_eq_some_iff.mp ((hsome t).mpr ⟨p, hlast⟩)
    rcases lt_trichotomy q p with hlt | rfl | hgt
    · exact .inr ⟨q, hlt, hq⟩
    · exact .inl hq.1
    · exact absurd hq.2.1 (hlast.2 q t hgt)
  · intro h
    have hread : ∀ p t, IsLast id.toList p t → parse id = some t := by
      intro p t hlast
      rw [parse_eq_some_iff]
      rcases h p t hlast with hp | ⟨q, -, hq⟩
      · exact ⟨p, hp, hlast.1, fun q u hlt _ => hlast.2 q u hlt⟩
      · exact ⟨q, hq⟩
    refine ⟨fun t => ⟨fun hparse => ?_, fun ⟨p, hlast⟩ => hread p t hlast⟩, ?_⟩
    · obtain ⟨q, hq⟩ := parse_eq_some_iff.mp hparse
      obtain ⟨p, u, hlast⟩ := exists_isLast _ _ _ hq.2.1
      obtain rfl : t = u := Option.some.inj (hparse.symm.trans (hread p u hlast))
      exact ⟨p, hlast⟩
    · constructor
      · intro hnone p t hstamp
        obtain ⟨p, u, hlast⟩ := exists_isLast _ _ _ hstamp
        rw [hread p u hlast] at hnone
        cases hnone
      · intro hnone
        refine Option.eq_none_iff_forall_ne_some.mpr fun t hparse => ?_
        obtain ⟨q, hq⟩ := parse_eq_some_iff.mp hparse
        exact hnone q t hq.2.1

/-- Where a piece runs into the year of the last stamp, that stamp is not read: nothing is if the
piece says no moment, and else what the piece says. -/
theorem not_readsLast_of_overlap :
    ¬ ReadsLast "2024-13-99_2024-05-01_0900" ∧
    parse "2024-13-99_2024-05-01_0900" = none ∧
    IsLast "2024-13-99_2024-05-01_0900".toList 11 ⟨2024, 5, 1, 9, 0, 0⟩ ∧
    ¬ ReadsLast "2024-01-01_2024-05-01_0900" ∧
    parse "2024-01-01_2024-05-01_0900" = some ⟨2024, 1, 1, 20, 24, 0⟩ ∧
    IsLast "2024-01-01_2024-05-01_0900".toList 11 ⟨2024, 5, 1, 9, 0, 0⟩ := by
  have hlast : ∀ id ∈ ["2024-13-99_2024-05-01_0900", "2024-01-01_2024-05-01_0900"],
      IsLast id.toList 11 ⟨2024, 5, 1, 9, 0, 0⟩ := by
    intro id hid
    have hplace : id.toList.length = 26 ∧ fits shape (id.toList.drop 11) = true ∧
        moment? ((id.toList.drop 11).take shape.length) = some ⟨2024, 5, 1, 9, 0, 0⟩ := by
      revert id
      decide +kernel
    refine ⟨stampAt_iff.mpr hplace.2, fun q u hlt hstamp => ?_⟩
    have := hstamp.add_le_length
    omega
  have hnone : parse "2024-13-99_2024-05-01_0900" = none := by decide +kernel
  have hfirst : parse "2024-01-01_2024-05-01_0900" = some ⟨2024, 1, 1, 20, 24, 0⟩ := by
    decide +kernel
  have hlast₁ := hlast _ (List.mem_cons_self)
  have hlast₂ := hlast _ (List.mem_cons_of_mem _ List.mem_cons_self)
  refine ⟨fun h => ?_, hnone, hlast₁, fun h => ?_, hfirst, hlast₂⟩
  · have := (h.1 _).mpr ⟨11, hlast₁⟩
    rw [hnone] at this
    cases this
  · have := (h.1 _).mpr ⟨11, hlast₂⟩
    rw [hfirst] at this
    cases this

end Conformance.Stamp
