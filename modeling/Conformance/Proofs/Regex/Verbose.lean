import Conformance.Proofs.Regex.Fragment

/-!
# Verbose notation in fragments

A fragment without verbose notation has no comments, and only the letter `x` switches it on.
-/
namespace Conformance.Regex

open Reading (IsSteady Reaches)

variable {flags inside : Flags} {r r' : Reading} {l : Level} {s rest : List Char} {c : Char}
  {fragment : String}

theorem readFlags_verbose {seen : List Char} (hx : 'x' ∉ s)
    (h : readFlags flags seen s = .ok (inside, rest)) : inside.verbose = flags.verbose := by
  induction s generalizing flags seen with
  | nil => cases h
  | cons c s ih =>
    rw [List.mem_cons, not_or] at hx
    rw [readFlags] at h
    split at h
    · split at h
      · cases h
      · cases h
        rfl
    · split at h
      · cases h
      · dsimp only at h
        split at h
        iterate 7
          have hnext := ih hx.2 h
          exact hnext
        · exact (hx.1 rfl).elim
        · cases h

namespace Reading

/-- Nowhere in what has been read is verbose notation on. -/
structure IsTerse (r : Reading) : Prop where
  level : r.level.flags.verbose = false
  outer : ∀ l ∈ r.outer, l.flags.verbose = false

theorem IsTerse.withLevel (h : r.IsTerse) (hl : l.flags = r.level.flags) :
    (r.withLevel l).IsTerse :=
  ⟨(congrArg Flags.verbose hl).trans h.level, h.outer⟩

theorem IsTerse.openGroup (h : r.IsTerse) (hflags : flags.verbose = false) :
    (r.openGroup flags).IsTerse :=
  ⟨hflags, List.forall_mem_cons.mpr ⟨h.level, h.outer⟩⟩

theorem Switches.verbose (h : Switches flags s inside) (hx : 'x' ∉ s)
    (hflags : flags.verbose = false) : inside.verbose = false := by
  rcases h with rfl | ⟨t, rest, ht, hread⟩
  · exact hflags
  · exact (readFlags_verbose (fun hmem => hx (ht.subset hmem)) hread).trans hflags

theorem IsTerse.step (h : r.IsTerse) (hx : 'x' ∉ s) (hread : r.step c s = .ok (r', rest)) :
    r'.IsTerse := by
  cases makes_of_step hread with
  | chars | look | branch | repeated => exact h.withLevel rfl
  | directive hswitches => exact ⟨hswitches.verbose hx h.level, h.outer⟩
  | opened names hswitches => exact ⟨hswitches.verbose hx h.level, (h.openGroup h.level).outer⟩
  | closed houter =>
    have hall := h.outer
    rw [houter, List.forall_mem_cons] at hall
    exact ⟨hall.1, hall.2⟩

theorem Reaches.isTerse (h : Reaches r s r' rest) (hr : r.IsTerse) (hx : 'x' ∉ s) :
    r'.IsTerse := by
  induction h with
  | refl => exact hr
  | @step r next r' c s t left rest hskip hstep _ _ ih =>
    have hcalm : IsCalm r.level.flags t := fun hverbose => by
      rw [hr.level] at hverbose
      cases hverbose
    have hsuffix := skip_suffix r.level.flags s
    rw [hskip] at hsuffix
    have hnot : 'x' ∉ t := fun hmem => hx (hsuffix.subset (List.mem_cons_of_mem _ hmem))
    exact ih (hr.step hnot hstep) fun hmem =>
      hnot ((isLocal_step r c hcalm hstep).1.subset hmem)

end Reading

/-- Some part of the fragment is under the flag `x`. -/
def SwitchesToVerbose (fragment : String) : Prop :=
  ∃ r rest, Reaches .start fragment.toList r rest ∧ r.level.flags.verbose = true

theorem isSteady_of_not_switchesToVerbose (h : ¬ SwitchesToVerbose fragment) :
    IsSteady .start fragment.toList :=
  fun r rest hreach hverbose => (h ⟨r, rest, hreach, hverbose⟩).elim

theorem not_switchesToVerbose_of_notMem (hx : 'x' ∉ fragment.toList) :
    ¬ SwitchesToVerbose fragment := by
  rintro ⟨r, rest, hreach, hverbose⟩
  have hstart : Reading.start.IsTerse := ⟨rfl, fun _ hl => absurd hl List.not_mem_nil⟩
  rw [(hreach.isTerse hstart hx).level] at hverbose
  cases hverbose

end Conformance.Regex
