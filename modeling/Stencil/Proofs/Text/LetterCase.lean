import Stencil.Text.LetterCase

/-!
# Marks under the case maps

The marks up to the slash have no case: they stay as they are, and the case maps make them of no other character.  So
the marks of a text are where they were when its letters are written in lower case.
-/

namespace Stencil.Text

/-- Whether a character is one of those up to the slash, none of which is a letter. -/
def IsMark (c : Char) : Prop :=
  0 < c.toNat ∧ c.toNat ≤ '/'.toNat

instance : DecidablePred IsMark :=
  fun _ => inferInstanceAs (Decidable (_ ∧ _))

variable {mark c : Char}

/-! ## One character -/

/-- What is the code of no character stands for the character without a code. -/
theorem toNat_ofNat_or (n : Nat) : (Char.ofNat n).toNat = n ∨ Char.ofNat n = Char.ofNat 0 := by
  rw [Char.ofNat]
  by_cases valid : n.isValidChar
  · rw [dif_pos valid]
    exact .inl rfl
  · rw [dif_neg valid]
    exact .inr rfl

theorem eq_toNat_of_ofNat {n : Nat} (isMark : IsMark mark) (same : Char.ofNat n = mark) : n = mark.toNat := by
  rcases toNat_ofNat_or n with code | none
  · rw [← same, code]
  · rw [← same, none] at isMark
    exact absurd isMark (by decide)

/-- An image of a code point is listed for it, or its partner in a run, or the code point itself. -/
theorem cases_mem_mapCase {runs : List CaseRun} {expansions : List (Nat × List Nat)} {n image : Nat}
    (known : image ∈ mapCase runs expansions n) :
    (∃ images, (n, images) ∈ expansions ∧ image ∈ images) ∨
      (∃ run ∈ runs, run.partner? n = some image) ∨
      image = n ∧ mapCase runs expansions n = [n] := by
  rw [mapCase] at known ⊢
  split at known
  · rename_i code images found
    obtain rfl : code = n := by simpa using List.find?_some found
    exact .inl ⟨images, List.mem_of_find?_eq_some found, known⟩
  · have partner := List.mem_singleton.mp known
    cases found : runs.findSome? (·.partner? n) with
    | none =>
        rw [found, Option.getD_none] at partner
        exact .inr (.inr ⟨partner, rfl⟩)
    | some paired =>
        rw [found, Option.getD_some] at partner
        obtain ⟨run, listed, inRun⟩ := List.exists_of_findSome?_eq_some found
        exact .inr (.inl ⟨run, listed, partner ▸ inRun⟩)

/-- The partner of a code point lies as far from it as all partners of the run do. -/
theorem CaseRun.bounds_of_partner? {run : CaseRun} {n image : Nat} (partner : run.partner? n = some image) :
    run.first ≤ n ∧ n ≤ run.last ∧ (n - run.first) % run.step = 0 ∧ image = (n + run.shift).toNat := by
  rw [partner?] at partner
  split at partner
  · rename_i inRun
    exact ⟨inRun.1, inRun.2.1, inRun.2.2, (Option.some.inj partner).symm⟩
  · cases partner

private theorem not_mem_mapCase {runs : List CaseRun} {expansions : List (Nat × List Nat)} (isMark : IsMark mark)
    (runsAbove : ∀ run ∈ runs, ('/'.toNat : Int) < run.first + run.shift)
    (expansionsAbove : ∀ expansion ∈ expansions, ∀ image ∈ expansion.2, '/'.toNat < image) {n : Nat}
    (wide : 0x80 ≤ n) : mark ∉ (mapCase runs expansions n).map Char.ofNat := by
  have low := isMark.2
  have small : '/'.toNat < 0x80 := by decide
  intro member
  obtain ⟨image, known, same⟩ := List.mem_map.mp member
  obtain rfl := eq_toNat_of_ofNat isMark same
  rcases cases_mem_mapCase known with ⟨images, listed, known⟩ | ⟨run, listed, partner⟩ | ⟨same, -⟩
  · have above := expansionsAbove _ listed _ known
    omega
  · have above := runsAbove run listed
    obtain ⟨first, -, -, same⟩ := run.bounds_of_partner? partner
    omega
  · omega

private theorem runs_above :
    (∀ run ∈ upperRuns, ('/'.toNat : Int) < run.first + run.shift) ∧
      ∀ run ∈ lowerRuns, ('/'.toNat : Int) < run.first + run.shift := by
  decide +kernel

private theorem expansions_above :
    (∀ expansion ∈ upperExpansions, ∀ image ∈ expansion.2, '/'.toNat < image) ∧
      ∀ expansion ∈ lowerExpansions, ∀ image ∈ expansion.2, '/'.toNat < image := by
  decide +kernel

private theorem ascii_case (n : Nat) (narrow : n < 0x80) :
    (IsMark (Char.ofNat n).toUpper → (Char.ofNat n).toUpper = Char.ofNat n) ∧
      (IsMark (Char.ofNat n).toLower → (Char.ofNat n).toLower = Char.ofNat n) := by
  revert n
  decide +kernel

/-- No mark is the upper-case form of another character, or a part of it. -/
theorem not_mem_upperChar (isMark : IsMark mark) (other : c ≠ mark) : mark ∉ upperChar c := by
  rw [upperChar]
  split
  · rename_i narrow
    have stays := (ascii_case c.toNat narrow).1
    rw [Char.ofNat_toNat] at stays
    intro known
    obtain rfl := List.mem_singleton.mp known
    exact other (stays isMark).symm
  · rename_i wide
    exact not_mem_mapCase isMark runs_above.1 expansions_above.1 (Nat.not_lt.mp wide)

/-- No mark is the lower-case form of another character, or a part of it. -/
theorem not_mem_lowerChar (isMark : IsMark mark) (other : c ≠ mark) : mark ∉ lowerChar c := by
  rw [lowerChar]
  split
  · rename_i narrow
    have stays := (ascii_case c.toNat narrow).2
    rw [Char.ofNat_toNat] at stays
    intro known
    obtain rfl := List.mem_singleton.mp known
    exact other (stays isMark).symm
  · rename_i wide
    exact not_mem_mapCase isMark runs_above.2 expansions_above.2 (Nat.not_lt.mp wide)

private theorem lower_mark (n : Nat) (small : n ≤ '/'.toNat) : (Char.ofNat n).toLower = Char.ofNat n := by
  revert n
  decide

theorem lowerChar_mark (isMark : IsMark mark) : lowerChar mark = [mark] := by
  have stays := lower_mark mark.toNat isMark.2
  have narrow : mark.toNat < 0x80 := Nat.lt_of_le_of_lt isMark.2 (by decide)
  rw [Char.ofNat_toNat] at stays
  rw [lowerChar, if_pos narrow, stays]

theorem lowerChar_ne_nil (c : Char) : lowerChar c ≠ [] := by
  have images : ∀ expansion ∈ lowerExpansions, expansion.2 ≠ [] := by decide
  rw [lowerChar]
  split
  · exact List.cons_ne_nil _ _
  · rw [mapCase]
    split
    · rename_i code image found
      exact mt List.map_eq_nil_iff.mp (images _ (List.mem_of_find?_eq_some found))
    · exact List.cons_ne_nil _ _

/-! ## Texts -/

/-- What stands in a text in lower case for a character of it. -/
def lowerAt (before : List Char) (c : Char) (rest : List Char) : List Char :=
  if c = 'Σ' then [if meetsCased before && !meetsCased rest then 'ς' else 'σ'] else lowerChar c

theorem lowerAfter_cons (before : List Char) (c : Char) (rest : List Char) :
    lowerAfter before (c :: rest) = lowerAt before c rest ++ lowerAfter (c :: before) rest := rfl

theorem lowerAt_ne_nil (before : List Char) (c : Char) (rest : List Char) : lowerAt before c rest ≠ [] := by
  rw [lowerAt]
  split
  · exact List.cons_ne_nil _ _
  · exact lowerChar_ne_nil c

theorem not_mem_lowerAt (isMark : IsMark mark) (other : c ≠ mark) (before rest : List Char) :
    mark ∉ lowerAt before c rest := by
  rw [lowerAt]
  split
  · intro known
    have sigma := List.mem_singleton.mp known
    split at sigma
    · subst sigma
      revert isMark
      decide
    · subst sigma
      revert isMark
      decide
  · exact not_mem_lowerChar isMark other

theorem eq_of_mem_lowerAt (isMark : IsMark mark) {before rest : List Char} (known : mark ∈ lowerAt before c rest) :
    c = mark :=
  Decidable.byContradiction fun other => not_mem_lowerAt isMark other before rest known

theorem lowerAt_mark (isMark : IsMark mark) (before rest : List Char) : lowerAt before mark rest = [mark] := by
  rw [lowerAt, if_neg, lowerChar_mark isMark]
  rintro rfl
  revert isMark
  decide

theorem mem_lowerAfter_iff (isMark : IsMark mark) {before s : List Char} :
    mark ∈ lowerAfter before s ↔ mark ∈ s := by
  induction s generalizing before with
  | nil => exact Iff.rfl
  | cons c rest induction =>
      rw [lowerAfter_cons, List.mem_append, induction, List.mem_cons]
      refine or_congr_left ?_
      constructor
      · exact fun known => (eq_of_mem_lowerAt isMark known).symm
      · rintro rfl
        rw [lowerAt_mark isMark]
        exact List.mem_singleton_self _

theorem lowerAfter_eq_nil_iff {before s : List Char} : lowerAfter before s = [] ↔ s = [] := by
  cases s with
  | nil => exact Iff.rfl
  | cons c rest =>
      refine iff_of_false ?_ (List.cons_ne_nil c rest)
      rw [lowerAfter_cons]
      exact List.append_ne_nil_of_left_ne_nil (lowerAt_ne_nil before c rest) _

theorem lowerAfter_mark_cons (isMark : IsMark mark) (before rest : List Char) :
    lowerAfter before (mark :: rest) = mark :: lowerAfter (mark :: before) rest := by
  rw [lowerAfter_cons, lowerAt_mark isMark, List.singleton_append]

/-- A text that begins with a mark in lower case begins with it. -/
theorem exists_of_lowerAfter_eq_cons (isMark : IsMark mark) {before s lowered : List Char}
    (same : lowerAfter before s = mark :: lowered) :
    ∃ rest, s = mark :: rest ∧ lowerAfter (mark :: before) rest = lowered := by
  cases s with
  | nil => cases same
  | cons c rest =>
      obtain ⟨first, more, begins⟩ := List.exists_cons_of_ne_nil (lowerAt_ne_nil before c rest)
      have head : first = mark := by
        rw [lowerAfter_cons, begins, List.cons_append] at same
        exact (List.cons.inj same).1
      have known : mark ∈ lowerAt before c rest := by
        rw [begins, head]
        exact List.mem_cons_self
      obtain rfl := eq_of_mem_lowerAt isMark known
      rw [lowerAfter_mark_cons isMark] at same
      exact ⟨rest, rfl, (List.cons.inj same).2⟩

/-- A text that is one with a mark at its head, but for the case of letters, has this mark at its head. -/
theorem exists_of_lower_eq (isMark : IsMark mark) {s rest : List Char} (same : lower s = lower (mark :: rest)) :
    ∃ rest', s = mark :: rest' ∧ lowerAfter [mark] rest' = lowerAfter [mark] rest := by
  rw [lower, lower, lowerAfter_mark_cons isMark] at same
  exact exists_of_lowerAfter_eq_cons isMark same

end Stencil.Text
