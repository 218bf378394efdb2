import Conformance.Proofs.Files.Path
import Conformance.Unicode.Property

/-!
# Names of properties

No property has a parenthesis in its name.
-/
namespace Conformance

theorem toList_literal {l : List Char} {s : String} (h : String.ofList l = s) : s.toList = l := by
  rw [← h, String.toList_ofList]

theorem Text.mem_of_mem_split {mark c : Char} {s part : List Char} (hpart : part ∈ split mark s)
    (hc : c ∈ part) : c ∈ s := by
  induction s generalizing part with
  | nil =>
    obtain rfl := List.mem_singleton.mp hpart
    exact hc
  | cons d s ih =>
    by_cases hd : d = mark
    · subst hd
      rw [split_cons_self] at hpart
      rcases List.mem_cons.mp hpart with rfl | hpart
      · cases hc
      · exact List.mem_cons_of_mem d (ih hpart hc)
    · rw [split_cons_of_ne hd] at hpart
      rcases List.mem_cons.mp hpart with rfl | hpart
      · rcases List.mem_cons.mp hc with rfl | hc
        · exact List.mem_cons_self
        · exact List.mem_cons_of_mem d (ih (List.head_mem _) hc)
      · exact List.mem_cons_of_mem d (ih (List.mem_of_mem_tail hpart) hc)

namespace Unicode.Property

variable {normal : List Char} {name : String}

theorem toLower_eq_paren {c : Char} (h : c.toLower = ')') : c = ')' := by
  unfold Char.toLower at h
  split at h
  · next hupper =>
    have hlow : (65 : UInt32) ≤ c.val := hupper.1
    have hhigh : c.val ≤ (90 : UInt32) := hupper.2
    have hsum : c.val + 32 = (41 : UInt32) := congrArg Char.val h
    have hnat := congrArg UInt32.toNat hsum
    simp only [UInt32.le_iff_toNat_le, UInt32.toNat_add, UInt32.reduceToNat] at hlow hhigh hnat
    omega
  · exact h

theorem paren_mem_normalize {name : List Char} : ')' ∈ normalize name ↔ ')' ∈ name := by
  have hletters : ∀ s : List Char, ')' ∈ (s.filter fun c =>
      c.toNat < 128 && c != ' ' && c != '_' && c != '-').map Char.toLower ↔ ')' ∈ s := by
    intro s
    rw [List.mem_map]
    constructor
    · rintro ⟨c, hc, hlower⟩
      obtain rfl := toLower_eq_paren hlower
      exact (List.mem_filter.mp hc).1
    · exact fun hs => ⟨')', List.mem_filter.mpr ⟨hs, by decide⟩, by decide⟩
  unfold normalize
  dsimp only
  split
  · next i s rest =>
    split
    · next hprefix =>
      rw [Bool.and_eq_true, beq_iff_eq, beq_iff_eq] at hprefix
      have hi : ')' ≠ i := by
        rintro rfl
        exact absurd hprefix.1 (by decide)
      have hs : ')' ≠ s := by
        rintro rfl
        exact absurd hprefix.2 (by decide)
      rw [List.mem_cons, or_iff_right hi, List.mem_cons, or_iff_right hs, ← hletters rest]
      split
      · next hc =>
        rw [beq_iff_eq.mp hc]
        decide
      · rfl
    · exact hletters _
  · exact hletters _

theorem sameName_of_paren (h : ')' ∈ normal) (hname : ')' ∉ name.toList) :
    sameName normal name = false :=
  beq_eq_false_iff_ne.mpr fun heq => hname (paren_mem_normalize.mp (heq ▸ h))

theorem generalCategory?_of_paren (h : ')' ∈ normal) : generalCategory? normal = none := by
  have hnames : ∀ names ∈ categoryNames, ∀ name ∈ names.1, ')' ∉ name.toList := by
    decide +kernel
  rw [generalCategory?, sameName_of_paren h (by decide), sameName_of_paren h (by decide),
    sameName_of_paren h (by decide), List.find?_eq_none.mpr]
  · rfl
  · intro names hmem hany
    obtain ⟨name, hname, hsame⟩ := List.any_eq_true.mp hany
    rw [sameName_of_paren h (hnames names hmem name hname)] at hsame
    cases hsame

theorem paren_notMem_of_mem_tableWords {lines : List String}
    (hlines : ∀ line ∈ lines, ')' ∉ line.toList) {word : List Char} (h : word ∈ tableWords lines) :
    ')' ∉ word := by
  obtain ⟨line, hline, hword⟩ := List.mem_flatMap.mp h
  exact fun hmem => hlines line hline (Text.mem_of_mem_split hword hmem)

theorem scriptCode?_of_paren (h : ')' ∈ normal) : scriptCode? normal = none := by
  have hnames : ∀ names ∈ scriptNames, ∀ name ∈ names, ')' ∉ name.toList := by
    intro names hmem name hname
    obtain ⟨word, hword, rfl⟩ := List.mem_map.mp hmem
    obtain ⟨part, hpart, rfl⟩ := List.mem_map.mp hname
    rw [String.toList_ofList]
    refine fun hparen => paren_notMem_of_mem_tableWords ?_ hword (Text.mem_of_mem_split hpart hparen)
    repeat' first
      | refine List.forall_mem_cons.mpr ⟨?_, ?_⟩
      | exact fun _ hline => absurd hline List.not_mem_nil
      | (rw [toList_literal rfl]; decide)
  have hfind : scriptNames.find? (fun names => names.any (sameName normal)) = none := by
    refine List.find?_eq_none.mpr fun names hmem hany => ?_
    obtain ⟨name, hname, hsame⟩ := List.any_eq_true.mp hany
    rw [sameName_of_paren h (hnames names hmem name hname)] at hsame
    cases hsame
  rw [scriptCode?, hfind]
  rfl

theorem age?_of_paren (h : ')' ∈ normal) : age? normal = none := by
  have hnames : ∀ p ∈ ages, ')' ∉ p.1.toList := by
    decide +kernel
  rw [age?, List.find?_eq_none.mpr]
  · rfl
  · rintro ⟨version, added⟩ hmem hsame
    have hversion : ')' ∉ version.toList := hnames _ hmem
    have hlong : ')' ∉ 'v' :: version.toList.filter (· != '.') := by
      rw [List.mem_cons, or_iff_right (by decide)]
      exact fun hparen => hversion (List.mem_filter.mp hparen).1
    simp only [sameName_of_paren h hversion, Bool.false_or, beq_iff_eq] at hsame
    exact hlong (hsame ▸ h)

theorem binary?_of_paren (h : ')' ∈ normal) : binary? normal = none := by
  have hnames : ∀ p ∈ binaryProperties, ')' ∉ p.1.toList ∧ ')' ∉ p.2.1.toList := by
    decide +kernel
  rw [binary?, List.find?_eq_none.mpr]
  · rfl
  · intro p hmem hsame
    obtain ⟨hshort, hlong⟩ := hnames p hmem
    simp only [sameName_of_paren h hshort, sameName_of_paren h hlong] at hsame
    cases hsame

theorem ofName?_of_paren {name : List Char} (h : ')' ∈ name) : ofName? name = none := by
  have hnormal := paren_mem_normalize.mpr h
  simp only [ofName?, generalCategory?_of_paren hnormal, scriptCode?_of_paren hnormal,
    binary?_of_paren hnormal]
  split <;> rfl

theorem ofNameAndValue?_of_paren {key value : List Char} (h : ')' ∈ key ∨ ')' ∈ value) :
    ofNameAndValue? key value = none := by
  rcases h with h | h
  · have hother : ∀ {name : String}, ')' ∉ name.toList → sameName (normalize key) name = false :=
      sameName_of_paren (paren_mem_normalize.mpr h)
    rw [ofNameAndValue?, hother (by decide), hother (by decide), hother (by decide),
      hother (by decide), hother (by decide), hother (by decide +kernel), hother (by decide)]
    rfl
  · have hnormal := paren_mem_normalize.mpr h
    simp only [ofNameAndValue?, generalCategory?_of_paren hnormal, scriptCode?_of_paren hnormal,
      age?_of_paren hnormal, Option.map_none, ite_self]

end Unicode.Property
end Conformance
