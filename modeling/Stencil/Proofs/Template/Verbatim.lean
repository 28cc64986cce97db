import Stencil.Proofs.Template.Absorption
import Stencil.Proofs.Template.Source

/-!
# Templates without actions

A template in which no action is opened is rendered as it stands, whatever its text would mean to a page.
-/

namespace Stencil.Template

variable {s : List Char}

theorem hasPair_eq_false_iff {a b : Char} : hasPair a b s = false ↔ ¬[a, b] <:+: s := by
  rw [← Bool.not_eq_true, not_congr hasPair_eq_true_iff]
  refine not_congr ⟨?_, ?_⟩
  · rintro ⟨front, rest, rfl⟩
    exact ⟨front, rest, by simp⟩
  · rintro ⟨front, rest, rfl⟩
    exact ⟨front, rest, by simp⟩

theorem findAction?_eq_none (unopened : hasPair '\x7b' '\x7b' s = false) : findAction? s = none := by
  induction s with
  | nil => rfl
  | cons c rest induction =>
      obtain ⟨unopenedRest, noBrace⟩ := hasPair_cons_eq_false unopened
      have other (inner : List Char) : c :: rest ≠ '\x7b' :: '\x7b' :: inner := by
        intro same
        cases same
        exact noBrace rfl rfl
      rw [findAction?_other other, induction unopenedRest, Option.map_none]

theorem cut_eq_text (unopened : hasPair '\x7b' '\x7b' s = false) : cut s = [.text s] := by
  rw [cut, cutAfter_eq, findAction?_eq_none unopened]
  rfl

/-- A template in which no action is opened is rendered as it stands. -/
theorem render_verbatim (unopened : hasPair '\x7b' '\x7b' s = false) (functions : List Function)
    (p : Project.Parameters) : render functions p s = .ok s := by
  obtain ⟨page, tags, prints⟩ := Prints.textTags unopened
  apply prints.render
  rw [toPage, compile, cut_eq_text unopened]
  simp [compileFrom, pieceTags, tags, Except.map]

end Stencil.Template
