import Stencil.Proofs.Text.LetterCase
import Stencil.Proofs.Text.Trim

/-!
# Texts in lower case

No letter that a text has in lower case has a lower-case form of its own, so that a second time changes nothing, and
none is a blank that did not stand in the text.
-/

namespace Stencil.Text

variable {c image : Char}

/-- Whether a character stays as it is in lower case, wherever it stands. -/
def IsLower (c : Char) : Prop :=
  c ≠ 'Σ' ∧ lowerChar c = [c]

instance : DecidablePred IsLower :=
  fun _ => inferInstanceAs (Decidable (_ ∧ _))

/-! ## Code points -/

/-- Whether the partners of a run lie outside of another run: before it, behind it, or between its steps. -/
def CaseRun.misses (run other : CaseRun) : Bool :=
  Nat.blt (run.last + run.shift).toNat other.first || Nat.blt other.last (run.first + run.shift).toNat ||
    other.step == 2 && (run.step == 2 || run.first == run.last) &&
      ((run.first + run.shift).toNat + other.first) % 2 == 1

/-- The run of the one letter whose lower-case form has several characters. -/
private def expanded : CaseRun :=
  ⟨0x130, 0x130, 1, 0⟩

private theorem lowerRuns_miss :
    (lowerRuns.all fun run => (expanded :: lowerRuns).all fun other => run.misses other) = true := by
  decide +kernel

private theorem lowerRuns_regular :
    ∀ run ∈ lowerRuns, run.first ≤ run.last ∧ 0 ≤ run.first + run.shift ∧ (run.step = 1 ∨ run.step = 2) := by
  decide +kernel

theorem CaseRun.partner?_eq_none {run other : CaseRun} (misses : run.misses other = true)
    (regular : 0 ≤ run.first + run.shift ∧ (run.step = 1 ∨ run.step = 2)) {n image : Nat}
    (partner : run.partner? n = some image) : other.partner? image = none := by
  obtain ⟨first, last, step, rfl⟩ := run.bounds_of_partner? partner
  simp only [CaseRun.misses, Bool.or_eq_true, Bool.and_eq_true, Nat.blt_eq, beq_iff_eq] at misses
  rw [partner?, if_neg]
  rintro ⟨behind, before, inStep⟩
  rcases misses with (before' | behind') | ⟨⟨sparse, even⟩, odd⟩
  · omega
  · omega
  · rw [sparse] at inStep
    rcases even with even | single
    · rw [even] at step
      omega
    · omega

/-- A lower-case form has no lower-case form of its own. -/
theorem mapCase_of_mem_mapCase {n image : Nat} (known : image ∈ mapCase lowerRuns lowerExpansions n) :
    mapCase lowerRuns lowerExpansions image = [image] := by
  have listed : ∀ expansion ∈ lowerExpansions, ∀ image ∈ expansion.2,
      mapCase lowerRuns lowerExpansions image = [image] := by
    decide
  have unlisted {image : Nat} (other : image ≠ 0x130) : lowerExpansions.find? (·.1 == image) = none := by
    simpa [lowerExpansions] using other.symm
  rcases cases_mem_mapCase known with ⟨images, expansion, known⟩ | ⟨run, inRuns, partner⟩ | ⟨rfl, stays⟩
  · exact listed _ expansion _ known
  · obtain ⟨-, low, step⟩ := lowerRuns_regular run inRuns
    have missed : ∀ other ∈ expanded :: lowerRuns, other.partner? image = none := by
      intro other known
      have misses := List.all_eq_true.mp (List.all_eq_true.mp lowerRuns_miss run inRuns) other known
      exact run.partner?_eq_none misses ⟨low, step⟩ partner
    have alone : image ≠ 0x130 := by
      rintro rfl
      exact absurd (missed expanded List.mem_cons_self) (by decide)
    have none : lowerRuns.findSome? (·.partner? image) = none :=
      List.findSome?_eq_none_iff.mpr fun other known => missed other (List.mem_cons_of_mem _ known)
    rw [mapCase, unlisted alone, none]
    rfl
  · exact stays

/-! ## Characters -/

/-- What is checked of every ASCII character holds of each. -/
private theorem ascii_forall (holds : Char → Prop) (each : ∀ n < 0x80, holds (Char.ofNat n))
    (narrow : c.toNat < 0x80) : holds c := by
  have here := each c.toNat narrow
  rwa [Char.ofNat_toNat] at here

theorem isLower_toLower (narrow : c.toNat < 0x80) : IsLower c.toLower :=
  ascii_forall (fun c => IsLower c.toLower) (by decide) narrow

theorem isLower_ofNat {n : Nat} (stays : mapCase lowerRuns lowerExpansions n = [n]) : IsLower (Char.ofNat n) := by
  rcases toNat_ofNat_or n with code | none
  · by_cases narrow : n < 0x80
    · have letters : ∀ n < 0x80, IsLower (Char.ofNat n) ∨ mapCase lowerRuns lowerExpansions n ≠ [n] := by
        decide
      exact (letters n narrow).resolve_right (not_not.mpr stays)
    · refine ⟨?_, ?_⟩
      · intro sigma
        rw [← code, sigma] at stays
        revert stays
        decide
      · rw [lowerChar, code, if_neg narrow, stays, List.map_singleton]
  · rw [none]
    decide

theorem isLower_of_mem_lowerChar (known : image ∈ lowerChar c) : IsLower image := by
  rw [lowerChar] at known
  split at known
  · rename_i narrow
    obtain rfl := List.mem_singleton.mp known
    exact isLower_toLower narrow
  · obtain ⟨code, listed, rfl⟩ := List.mem_map.mp known
    exact isLower_ofNat (mapCase_of_mem_mapCase listed)

/-- Ranges without a blank. -/
private def solidRanges : List (Int × Int) :=
  [(0x61, 0x84), (0xA1, 0x167F), (0x1681, 0x1FFF), (0x200B, 0x2027), (0x2060, 0x2FFF), (0x3001, 0x10FFFF)]

private theorem lowerRuns_solid :
    ∀ run ∈ lowerRuns, ∃ range ∈ solidRanges, range.1 ≤ run.first + run.shift ∧ run.last + run.shift ≤ range.2 := by
  decide +kernel

private theorem isBlank_of_solid {n : Nat} {range : Int × Int} (known : range ∈ solidRanges) (low : range.1 ≤ n)
    (high : n ≤ range.2) : isBlank (Char.ofNat n) = false := by
  rcases toNat_ofNat_or n with code | none
  · simp only [isBlank, code]
    simp only [solidRanges, List.mem_cons, List.not_mem_nil, or_false] at known
    rcases known with rfl | rfl | rfl | rfl | rfl | rfl <;> simp at low high ⊢ <;> omega
  · rw [none]
    decide

/-- A blank is the lower-case form of itself alone. -/
theorem isBlank_of_mem_lowerChar (known : image ∈ lowerChar c) (blank : isBlank image = true) :
    isBlank c = true := by
  rw [lowerChar] at known
  split at known
  · rename_i narrow
    obtain rfl := List.mem_singleton.mp known
    exact ascii_forall (fun c => isBlank c.toLower = true → isBlank c = true) (by decide) narrow blank
  · obtain ⟨code, listed, rfl⟩ := List.mem_map.mp known
    rcases cases_mem_mapCase listed with ⟨images, expansion, listed⟩ | ⟨run, inRuns, partner⟩ | ⟨rfl, -⟩
    · have solid : ∀ expansion ∈ lowerExpansions, ∀ image ∈ expansion.2, isBlank (Char.ofNat image) = false := by
        decide
      rw [solid _ expansion _ listed] at blank
      cases blank
    · obtain ⟨first, last, -, rfl⟩ := run.bounds_of_partner? partner
      obtain ⟨range, inRanges, low, high⟩ := lowerRuns_solid run inRuns
      have positive := (lowerRuns_regular run inRuns).2.1
      rw [isBlank_of_solid inRanges (by omega) (by omega)] at blank
      cases blank
    · rwa [Char.ofNat_toNat] at blank

/-! ## Texts -/

theorem isLower_of_mem_lowerAt {before rest : List Char} (known : image ∈ lowerAt before c rest) :
    IsLower image := by
  rw [lowerAt] at known
  split at known
  · obtain rfl := List.mem_singleton.mp known
    split <;> decide
  · exact isLower_of_mem_lowerChar known

theorem isBlank_of_mem_lowerAt {before rest : List Char} (known : image ∈ lowerAt before c rest)
    (blank : isBlank image = true) : isBlank c = true := by
  rw [lowerAt] at known
  split at known
  · have solid : isBlank 'ς' = false ∧ isBlank 'σ' = false := by decide
    obtain rfl := List.mem_singleton.mp known
    split at blank
    · exact absurd blank (by simp [solid.1])
    · exact absurd blank (by simp [solid.2])
  · exact isBlank_of_mem_lowerChar known blank

theorem isLower_of_mem_lowerAfter {before s : List Char} (known : image ∈ lowerAfter before s) : IsLower image := by
  induction s generalizing before with
  | nil => cases known
  | cons c rest induction =>
      rw [lowerAfter_cons, List.mem_append] at known
      rcases known with here | behind
      · exact isLower_of_mem_lowerAt here
      · exact induction behind

theorem lowerAfter_eq_self {before s : List Char} (each : ∀ c ∈ s, IsLower c) : lowerAfter before s = s := by
  induction s generalizing before with
  | nil => rfl
  | cons c rest induction =>
      obtain ⟨noSigma, stays⟩ := each c List.mem_cons_self
      have others : lowerAfter (c :: before) rest = rest :=
        induction fun c known => each c (List.mem_cons_of_mem _ known)
      rw [lowerAfter_cons, lowerAt, if_neg noSigma, stays, others, List.singleton_append]

/-- A text in lower case that ends with a blank stands for a text that does. -/
theorem exists_getLast?_of_lowerAfter {before s : List Char} (last : (lowerAfter before s).getLast? = some image)
    (blank : isBlank image = true) : ∃ c, s.getLast? = some c ∧ isBlank c = true := by
  induction s generalizing before with
  | nil => cases last
  | cons c rest induction =>
      rw [lowerAfter_cons] at last
      cases rest with
      | nil =>
          rw [lowerAfter, List.append_nil] at last
          exact ⟨c, rfl, isBlank_of_mem_lowerAt (List.mem_of_getLast? last) blank⟩
      | cons d rest =>
          have more : lowerAfter (c :: before) (d :: rest) ≠ [] := by
            rw [ne_eq, lowerAfter_eq_nil_iff]
            exact List.cons_ne_nil d rest
          rw [List.getLast?_append_of_ne_nil _ more] at last
          rw [List.getLast?_cons_cons]
          exact induction last

end Stencil.Text
