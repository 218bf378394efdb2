import Conformance.Proofs.Time.Order
import Conformance.Store.StoredReport

/-!
# Stamps in identifiers

A stamp that was written is read back, also at the end of the identifier of a report, whatever the
device is called: the text between the device and the stamp has letters, and no stamp runs across
a letter.
-/
namespace Conformance

namespace Moment

theorem toList_padded (width n : Nat) : (padded width n).toList =
    List.replicate (width - (Nat.toDigits 10 n).length) '0' ++ Nat.toDigits 10 n := by
  simp [padded]

theorem length_padded {width n : Nat} (hw : 0 < width) (h : n < 10 ^ width) :
    (padded width n).toList.length = width := by
  have hle := (Nat.length_toDigits_le_iff (by decide) hw).mpr h
  rw [toList_padded, List.length_append, List.length_replicate]
  omega

theorem isDigit_padded {width n : Nat} {c : Char} (h : c ∈ (padded width n).toList) :
    c.isDigit = true := by
  rw [toList_padded, List.mem_append] at h
  rcases h with h | h
  · rw [List.eq_of_mem_replicate h]
    rfl
  · exact Nat.isDigit_of_mem_toDigits (by decide) (by decide) h

theorem le_iff {a b : Moment} : a ≤ b ↔ a.year < b.year ∨ (a.year = b.year ∧
    (a.month < b.month ∨ (a.month = b.month ∧ (a.day < b.day ∨ (a.day = b.day ∧
      (a.hour < b.hour ∨ (a.hour = b.hour ∧ (a.minute < b.minute ∨ (a.minute = b.minute ∧
        a.second ≤ b.second))))))))) := by
  rw [← isBefore_eq_false_iff]
  simp only [isBefore, parts, partsBefore, Bool.or_eq_false_iff, Bool.and_eq_false_iff,
    decide_eq_false_iff_not, beq_eq_false_iff_ne, Bool.and_false, Bool.or_false]
  omega

theorem truncateToMinute_mono {a b : Moment} (h : a ≤ b) :
    a.truncateToMinute ≤ b.truncateToMinute := by
  rw [le_iff] at h ⊢
  simp only [truncateToMinute]
  omega

theorem year_le_of_le {a b : Moment} (h : a ≤ b) : a.year ≤ b.year := by
  rw [le_iff] at h
  omega

theorem isReal_truncateToMinute {t : Moment} (h : t.isReal = true) :
    t.truncateToMinute.isReal = true := by
  simp only [isReal, truncateToMinute, Bool.and_eq_true] at h ⊢
  exact ⟨h.1, rfl⟩

theorem isReal_bounds {t : Moment} (h : t.isReal = true) :
    t.month < 10 ^ 2 ∧ t.day < 10 ^ 2 ∧ t.hour < 10 ^ 2 ∧ t.minute < 10 ^ 2 := by
  have hdays : daysInMonth t.year t.month ≤ 31 := by
    unfold daysInMonth
    split
    · split <;> omega
    all_goals omega
  simp only [isReal, Bool.and_eq_true, decide_eq_true_eq] at h
  omega

end Moment

namespace Stamp

/-! ## Numbers -/

theorem number?_eq {s : List Char} (h : ∀ c ∈ s, c.isDigit = true) :
    number? s = some (Nat.ofDigitChars 10 s 0) := by
  have hfold : ∀ n, s.foldlM (fun n c =>
      if c.isDigit then some (10 * n + (c.toNat - '0'.toNat)) else none) n =
        some (Nat.ofDigitChars 10 s n) := by
    induction s with
    | nil => intro n; rfl
    | cons c s ih =>
      intro n
      rw [List.foldlM_cons, if_pos (h c List.mem_cons_self), Nat.ofDigitChars_cons]
      exact ih (fun d hd => h d (List.mem_cons_of_mem _ hd)) _
  exact hfold 0

theorem number?_padded (width n : Nat) :
    number? (Moment.padded width n).toList = some n := by
  rw [number?_eq fun c => Moment.isDigit_padded, Moment.toList_padded, Nat.ofDigitChars_append]
  simp

theorem number?_lt {s : List Char} {n : Nat} (h : number? s = some n) : n < 10 ^ s.length := by
  have hfold : ∀ (s : List Char) (k m n : Nat), m < 10 ^ k → s.foldlM (fun n c =>
      if c.isDigit then some (10 * n + (c.toNat - '0'.toNat)) else none) m = some n →
        n < 10 ^ (k + s.length) := by
    intro s
    induction s with
    | nil =>
      intro k m n hm h
      cases h
      exact hm
    | cons c s ih =>
      intro k m n hm h
      rw [List.foldlM_cons] at h
      split at h
      · next hc =>
        have hdigit : c.toNat - '0'.toNat < 10 := by
          have := Char.isDigit_iff_toNat.mp hc
          have hzero : '0'.toNat = 48 := rfl
          have hnine : '9'.toNat = 57 := rfl
          omega
        have := ih (k + 1) _ n (by rw [Nat.pow_succ]; omega) h
        rwa [List.length_cons, Nat.add_comm s.length, ← Nat.add_assoc]
      · cases h
  simpa using hfold s 0 0 n (by decide) h

/-! ## Shapes -/

theorem shape_eq : shape =
    ['d', 'd', 'd', 'd', '-', 'd', 'd', '-', 'd', 'd', '_', 'd', 'd', 'd', 'd'] := rfl

theorem fits_cons (p : Char) (ps : List Char) (c : Char) (s : List Char) :
    fits (p :: ps) (c :: s) = ((if p == 'd' then Unicode.isDigit c else c == p) && fits ps s) := rfl

theorem length_le_of_fits {ps s : List Char} (h : fits ps s = true) : ps.length ≤ s.length := by
  induction ps generalizing s with
  | nil => exact Nat.zero_le _
  | cons p ps ih =>
    cases s with
    | nil => cases h
    | cons c s =>
      rw [fits_cons, Bool.and_eq_true] at h
      exact Nat.succ_le_succ (ih h.2)

theorem fits_append {ps s : List Char} (h : fits ps s = true) (rest : List Char) :
    fits ps (s ++ rest) = true := by
  induction ps generalizing s with
  | nil => rfl
  | cons p ps ih =>
    cases s with
    | nil => cases h
    | cons c s =>
      rw [fits_cons, Bool.and_eq_true] at h
      rw [List.cons_append, fits_cons, h.1, ih h.2]
      rfl

/-- The character stands nowhere in a stamp. -/
def IsForeign (c : Char) : Prop :=
  Unicode.isDigit c = false ∧ c ≠ '-' ∧ c ≠ '_'

theorem IsForeign.not_fits {c p : Char} (h : IsForeign c) (hp : p ∈ shape) :
    (if p == 'd' then Unicode.isDigit c else c == p) = false := by
  have hall : ∀ p ∈ shape, p = 'd' ∨ p = '-' ∨ p = '_' := by
    rw [shape_eq]
    simp
  obtain ⟨hdigit, hhyphen, hunderscore⟩ := h
  rcases hall p hp with rfl | rfl | rfl
  · rw [if_pos (beq_self_eq_true _), hdigit]
  · rw [if_neg (by decide), beq_eq_false_iff_ne.mpr hhyphen]
  · rw [if_neg (by decide), beq_eq_false_iff_ne.mpr hunderscore]

/-- A stamp does not run across a character that is foreign to stamps. -/
theorem fits_foreign {c : Char} (hc : IsForeign c) {ps : List Char} (hps : ps ⊆ shape)
    (s rest : List Char) : fits ps (s ++ c :: rest) = fits ps s := by
  induction ps generalizing s with
  | nil => rfl
  | cons p ps ih =>
    have hp := hps List.mem_cons_self
    cases s with
    | nil => rw [List.nil_append, fits_cons, hc.not_fits hp, Bool.false_and]; rfl
    | cons d s =>
      rw [List.cons_append, fits_cons, fits_cons, ih (fun _ h => hps (List.mem_cons_of_mem _ h))]

theorem candidates_zero (c : Char) (s : List Char) : candidates 0 (c :: s) =
    if fits shape (c :: s) then (c :: s).take shape.length :: candidates (shape.length - 1) s
    else candidates 0 s := rfl

theorem candidates_skip (s rest : List Char) :
    candidates s.length (s ++ rest) = candidates 0 rest := by
  induction s with
  | nil => rfl
  | cons c s ih => exact ih

theorem candidates_of_fits {s : List Char} (h : fits shape s = true)
    (hlen : s.length = shape.length) (rest : List Char) :
    candidates 0 (s ++ rest) = s :: candidates 0 rest := by
  cases s with
  | nil => cases hlen
  | cons c s =>
    have htake : ((c :: s) ++ rest).take shape.length = c :: s := by
      rw [← hlen, List.take_left]
    have hrest : shape.length - 1 = s.length := by
      rw [← hlen, List.length_cons, Nat.add_sub_cancel]
    have hfits := fits_append h rest
    rw [List.cons_append] at hfits htake ⊢
    rw [candidates_zero, if_pos hfits, htake, hrest, candidates_skip]

/-- Stamps before and after a foreign character are found on their own. -/
theorem candidates_foreign {c : Char} (hc : IsForeign c) (skip : Nat) (s rest : List Char)
    (hskip : skip ≤ s.length) :
    candidates skip (s ++ c :: rest) = candidates skip s ++ candidates 0 rest := by
  induction s generalizing skip with
  | nil =>
    obtain rfl : skip = 0 := Nat.le_zero.mp hskip
    have hnot := fits_foreign hc (List.Subset.refl shape) [] rest
    rw [List.nil_append] at hnot ⊢
    rw [candidates_zero, hnot]
    rfl
  | cons d s ih =>
    rw [List.cons_append]
    cases skip with
    | succ k => exact ih k (Nat.le_of_succ_le_succ hskip)
    | zero =>
      have hsame := fits_foreign hc (List.Subset.refl shape) (d :: s) rest
      rw [List.cons_append] at hsame
      rw [candidates_zero, candidates_zero, hsame]
      split
      · next hfits =>
        have hlen := length_le_of_fits hfits
        have htake : ((d :: s) ++ c :: rest).take shape.length = (d :: s).take shape.length :=
          List.take_append_of_le_length hlen
        rw [List.cons_append] at htake
        rw [htake, List.cons_append, ih]
        rw [List.length_cons] at hlen
        omega
      · exact ih 0 (Nat.zero_le _)

/-! ## The stamp of a moment -/

theorem fits_digits {s : List Char} (h : ∀ c ∈ s, c.isDigit = true) (ps rest : List Char) :
    fits (List.replicate s.length 'd' ++ ps) (s ++ rest) = fits ps rest := by
  induction s with
  | nil => rfl
  | cons c s ih =>
    have hc : Unicode.isDigit c = true := by
      have hdigit := h c List.mem_cons_self
      have := Char.isDigit_iff_toNat.mp hdigit
      have hnine : '9'.toNat = 57 := rfl
      rw [Unicode.isDigit, if_pos (by omega), hdigit]
    have hs := ih fun d hd => h d (List.mem_cons_of_mem _ hd)
    rw [List.length_cons, List.replicate_succ, List.cons_append, List.cons_append, fits_cons, hs,
      if_pos (beq_self_eq_true _), hc, Bool.true_and]

theorem fits_mark {mark : Char} (h : (mark == 'd') = false) (ps rest : List Char) :
    fits (mark :: ps) (mark :: rest) = fits ps rest := by
  rw [fits_cons, h, if_neg Bool.false_ne_true, beq_self_eq_true, Bool.true_and]

def IsNumber (width : Nat) (digits : List Char) : Prop :=
  digits.length = width ∧ ∀ c ∈ digits, c.isDigit = true

theorem isNumber_padded {width n : Nat} (hw : 0 < width) (h : n < 10 ^ width) :
    IsNumber width (Moment.padded width n).toList :=
  ⟨Moment.length_padded hw h, fun _ => Moment.isDigit_padded⟩

theorem IsNumber.fits {width : Nat} {s : List Char} (h : IsNumber width s) (ps rest : List Char) :
    fits (List.replicate width 'd' ++ ps) (s ++ rest) = fits ps rest := by
  rw [← h.1]
  exact fits_digits h.2 ps rest

def joined (year month day hour minute : List Char) : List Char :=
  year ++ '-' :: (month ++ '-' :: (day ++ '_' :: (hour ++ minute)))

theorem shape_split : shape = List.replicate 4 'd' ++ '-' :: (List.replicate 2 'd' ++
    '-' :: (List.replicate 2 'd' ++ '_' :: (List.replicate 2 'd' ++
      (List.replicate 2 'd' ++ [])))) := rfl

section
variable {year month day hour minute : List Char}

theorem length_joined (hyear : year.length = 4) (hmonth : month.length = 2)
    (hday : day.length = 2) (hhour : hour.length = 2) (hminute : minute.length = 2) :
    (joined year month day hour minute).length = shape.length := by
  simp only [joined, List.length_append, List.length_cons, hyear, hmonth, hday, hhour, hminute]
  rfl

theorem fits_joined (hyear : IsNumber 4 year) (hmonth : IsNumber 2 month) (hday : IsNumber 2 day)
    (hhour : IsNumber 2 hour) (hminute : IsNumber 2 minute) :
    fits shape (joined year month day hour minute) = true := by
  have hlast := hminute.fits [] []
  rw [List.append_nil minute] at hlast
  rw [shape_split, joined, hyear.fits, fits_mark (by decide), hmonth.fits, fits_mark (by decide),
    hday.fits, fits_mark (by decide), hhour.fits, hlast]
  rfl

theorem moment?_joined (hyear : year.length = 4) (hmonth : month.length = 2)
    (hday : day.length = 2) (hhour : hour.length = 2) (hminute : minute.length = 2) :
    moment? (joined year month day hour minute) = (do
      let y ← number? year
      let m ← number? month
      let d ← number? day
      let h ← number? hour
      let n ← number? minute
      let t : Moment := ⟨y, m, d, h, n, 0⟩
      if t.isReal then some t else none) := by
  obtain ⟨y, y', y'', y''', rfl⟩ := List.length_eq_four.mp hyear
  obtain ⟨m, m', rfl⟩ := List.length_eq_two.mp hmonth
  obtain ⟨d, d', rfl⟩ := List.length_eq_two.mp hday
  obtain ⟨h, h', rfl⟩ := List.length_eq_two.mp hhour
  obtain ⟨n, n', rfl⟩ := List.length_eq_two.mp hminute
  rfl

end

def textOf (year month day hour minute : Nat) : List Char :=
  (Moment.padded 4 year).toList ++ '-' :: ((Moment.padded 2 month).toList ++
    '-' :: ((Moment.padded 2 day).toList ++ '_' :: ((Moment.padded 2 hour).toList ++
      (Moment.padded 2 minute).toList)))

theorem toList_format {t : Moment} (h : 0 ≤ t.year ∧ t.year ≤ 9999) :
    (format t).toList = textOf t.year.toNat t.month t.day t.hour t.minute := by
  have hyear : formatYear t.year = Moment.padded 4 t.year.toNat := if_pos h
  simp [format, hyear, textOf]

theorem not_mem_format {c : Char} (hdigit : c.isDigit = false) (hmark : c ∉ ['-', '_', '+'])
    (t : Moment) : c ∉ (format t).toList := by
  have hpadded : ∀ width n, c ∉ (Moment.padded width n).toList := by
    intro width n hc
    rw [Moment.isDigit_padded hc] at hdigit
    cases hdigit
  simp only [List.mem_cons, List.not_mem_nil, or_false, not_or] at hmark
  obtain ⟨hminus, hunderscore, hplus⟩ := hmark
  have hyear : c ∉ (formatYear t.year).toList := by
    rw [formatYear]
    split
    · exact hpadded _ _
    · split <;> simp [String.toList_append, hpadded, hminus, hplus]
  simp [format, String.toList_append, hpadded, hyear, hminus, hunderscore]

section
variable {year month day hour minute : Nat} (hyear : year < 10 ^ 4) (hmonth : month < 10 ^ 2)
  (hday : day < 10 ^ 2) (hhour : hour < 10 ^ 2) (hminute : minute < 10 ^ 2)
include hyear hmonth hday hhour hminute

theorem length_textOf : (textOf year month day hour minute).length = shape.length :=
  length_joined (Moment.length_padded (by decide) hyear) (Moment.length_padded (by decide) hmonth)
    (Moment.length_padded (by decide) hday) (Moment.length_padded (by decide) hhour)
    (Moment.length_padded (by decide) hminute)

theorem fits_textOf : fits shape (textOf year month day hour minute) = true :=
  fits_joined (isNumber_padded (by decide) hyear) (isNumber_padded (by decide) hmonth)
    (isNumber_padded (by decide) hday) (isNumber_padded (by decide) hhour)
    (isNumber_padded (by decide) hminute)

theorem moment?_textOf : moment? (textOf year month day hour minute) =
    if (⟨year, month, day, hour, minute, 0⟩ : Moment).isReal
    then some ⟨year, month, day, hour, minute, 0⟩ else none := by
  have hmoment := moment?_joined (Moment.length_padded (by decide) hyear)
    (Moment.length_padded (by decide) hmonth) (Moment.length_padded (by decide) hday)
    (Moment.length_padded (by decide) hhour) (Moment.length_padded (by decide) hminute)
  simp only [number?_padded] at hmoment
  exact hmoment

end

/-- A moment that a stamp can say: real, in a year of four digits, and on the minute. -/
structure IsStamped (t : Moment) : Prop where
  isReal : t.isReal = true
  year_nonneg : 0 ≤ t.year
  year_le : t.year ≤ 9999
  second_eq : t.second = 0

theorem IsStamped.truncate_eq {t : Moment} (h : IsStamped t) : t.truncateToMinute = t := by
  rw [Moment.truncateToMinute, ← h.second_eq]

theorem isStamped_of_moment? {s : List Char} {t : Moment} (h : moment? s = some t) :
    IsStamped t := by
  simp only [moment?, Option.bind_eq_bind, Option.bind_eq_some_iff] at h
  obtain ⟨year, hyear, month, -, day, -, hour, -, minute, -, h⟩ := h
  split at h
  · next hreal =>
    cases h
    have hlt := number?_lt hyear
    have hlen : ((s.drop 0).take 4).length ≤ 4 := List.length_take_le 4 _
    have hpow : 10 ^ ((s.drop 0).take 4).length ≤ 10 ^ 4 := Nat.pow_le_pow_right (by decide) hlen
    have hyear : (year : Int) ≤ 9999 := by omega
    exact ⟨hreal, Int.natCast_nonneg _, hyear, rfl⟩
  · cases h

theorem isStamped_of_parse {id : String} {t : Moment} (h : parse id = some t) : IsStamped t := by
  have hmem := List.mem_of_getLast? h
  obtain ⟨s, -, hs⟩ := List.mem_filterMap.mp hmem
  exact isStamped_of_moment? hs

theorem moment?_format {t : Moment} (hreal : t.isReal = true) (h : 0 ≤ t.year ∧ t.year ≤ 9999) :
    fits shape (format t).toList = true ∧ (format t).toList.length = shape.length ∧
      moment? (format t).toList = some t.truncateToMinute := by
  obtain ⟨hmonth, hday, hhour, hminute⟩ := Moment.isReal_bounds hreal
  have hyear : t.year.toNat < 10 ^ 4 := by omega
  have htrunc : (⟨t.year.toNat, t.month, t.day, t.hour, t.minute, 0⟩ : Moment) =
      t.truncateToMinute := by
    rw [Moment.truncateToMinute, Int.toNat_of_nonneg h.1]
  rw [toList_format h]
  refine ⟨fits_textOf hyear hmonth hday hhour hminute,
    length_textOf hyear hmonth hday hhour hminute, ?_⟩
  rw [moment?_textOf hyear hmonth hday hhour hminute, htrunc,
    if_pos (Moment.isReal_truncateToMinute hreal)]

theorem parse_format {t : Moment} (hreal : t.isReal = true) (h : 0 ≤ t.year ∧ t.year ≤ 9999) :
    parse (format t) = some t.truncateToMinute := by
  obtain ⟨hfits, hlen, hmoment⟩ := moment?_format hreal h
  have hcut := candidates_of_fits hfits hlen []
  rw [List.append_nil] at hcut
  rw [parse, hcut]
  simp [candidates, hmoment]

/-- The later of the clock and a stamp can be written, and is read as a moment that is not before
the stamp. -/
theorem IsStamped.latest {now t : Moment} (ht : IsStamped t) (hreal : now.isReal = true)
    (hyear : now.year ≤ 9999) :
    (now.latest t).isReal = true ∧ (0 ≤ (now.latest t).year ∧ (now.latest t).year ≤ 9999) ∧
      t ≤ (now.latest t).truncateToMinute := by
  rw [Moment.latest_eq_max]
  have hle : t ≤ max now t := le_max_right now t
  have hnonneg : 0 ≤ (max now t).year := ht.year_nonneg.trans (Moment.year_le_of_le hle)
  have htrunc := Moment.truncateToMinute_mono hle
  rw [ht.truncate_eq] at htrunc
  rcases le_total now t with h | h
  · rw [max_eq_right h] at hnonneg htrunc ⊢
    exact ⟨ht.isReal, ⟨hnonneg, ht.year_le⟩, htrunc⟩
  · rw [max_eq_left h] at hnonneg htrunc ⊢
    exact ⟨hreal, ⟨hnonneg, hyear⟩, htrunc⟩

theorem parse_idOf (device : String) {t : Moment} (hreal : t.isReal = true)
    (h : 0 ≤ t.year ∧ t.year ≤ 9999) :
    parse (StoredReport.idOf device (format t)) = some t.truncateToMinute := by
  obtain ⟨hfits, hlen, hmoment⟩ := moment?_format hreal h
  have hn : IsForeign 'n' := ⟨rfl, by decide, by decide⟩
  have htext : (StoredReport.idOf device (format t)).toList =
      (device ++ "_deviatio").toList ++ 'n' :: ('_' :: ((format t).toList ++ ".json".toList)) := by
    simp [StoredReport.idOf]
  have hcut : candidates 0 ('_' :: ((format t).toList ++ ".json".toList)) = [(format t).toList] := by
    rw [candidates_zero, if_neg (by rw [shape_eq, fits_cons]; exact Bool.false_ne_true),
      candidates_of_fits hfits hlen]
    rfl
  rw [parse, htext, candidates_foreign hn 0 _ _ (Nat.zero_le _), hcut, List.filterMap_append,
    List.getLast?_append, List.filterMap_cons, hmoment]
  rfl

theorem format_truncateToMinute (t : Moment) : format t.truncateToMinute = format t := rfl

/-- The identifiers of two reports of a device carry the moments of the reports, to the minute, and
the later of the two is that of the later minute, whatever the device is called. -/
theorem latest?_reportIds (device : String) {t u : Moment} (ht : t.isReal = true)
    (htyear : 0 ≤ t.year ∧ t.year ≤ 9999) (hu : u.isReal = true)
    (huyear : 0 ≤ u.year ∧ u.year ≤ 9999) :
    parse (StoredReport.idOf device (format t)) = some t.truncateToMinute ∧
    (t.truncateToMinute ≤ u.truncateToMinute → ∀ ids : List String,
      ids.Perm [StoredReport.idOf device (format t), StoredReport.idOf device (format u)] →
      latest? ids = some (u.truncateToMinute, StoredReport.idOf device (format u))) := by
  have hparse := parse_idOf device ht htyear
  have hparse' := parse_idOf device hu huyear
  refine ⟨hparse, fun hle ids hids => ?_⟩
  rw [latest?_eq_some]
  refine ⟨hids.mem_iff.mpr (by simp), hparse', fun id hid v hv => ?_⟩
  have hid := hids.mem_iff.mp hid
  simp only [List.mem_cons, List.not_mem_nil, or_false] at hid
  rcases hid with rfl | rfl
  · obtain rfl := Option.some.inj (hparse.symm.trans hv)
    rcases hle.lt_or_eq with hlt | heq
    · exact (Prod.Lex.toLex_lt_toLex.mpr (.inl hlt)).le
    · rw [heq, ← format_truncateToMinute t, heq, format_truncateToMinute]
  · obtain rfl := Option.some.inj (hparse'.symm.trans hv)
    exact le_rfl

/-- The device is called like a stamp of a later year, and ends in the beginning of one. -/
theorem latest?_reportIds_stamped :
    parse (StoredReport.idOf "9999-12-31_2359-2024-02-29_" (format ⟨2024, 2, 29, 23, 59, 59⟩)) =
      some ⟨2024, 2, 29, 23, 59, 0⟩ ∧
    latest? [StoredReport.idOf "9999-12-31_2359-2024-02-29_" (format ⟨2024, 3, 1, 0, 0, 7⟩),
        StoredReport.idOf "9999-12-31_2359-2024-02-29_" (format ⟨2024, 2, 29, 23, 59, 59⟩)] =
      some (⟨2024, 3, 1, 0, 0, 0⟩,
        StoredReport.idOf "9999-12-31_2359-2024-02-29_" (format ⟨2024, 3, 1, 0, 0, 7⟩)) := by
  obtain ⟨hparse, hlatest⟩ := latest?_reportIds "9999-12-31_2359-2024-02-29_"
    (t := ⟨2024, 2, 29, 23, 59, 59⟩) (u := ⟨2024, 3, 1, 0, 0, 7⟩) rfl (by decide) rfl (by decide)
  exact ⟨hparse, hlatest (Moment.isBefore_iff.mp rfl).le _ (.swap _ _ [])⟩

end Stamp
end Conformance
