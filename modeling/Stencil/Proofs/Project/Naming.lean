import Stencil.Proofs.Disk.Path
import Stencil.Proofs.Text.LetterCase
import Stencil.Project.Parameters

/-!
# The characters of derived names

No name that is made from a project name holds a slash unless the project name does: the case maps make no
slash of any other character, and parts are joined with dashes only.
-/

namespace Stencil.Project

open Disk Text

/-! ## Names -/

variable {name : List Char}

theorem slash_not_mem_parts (free : '/' ∉ name) : ∀ part ∈ parts name, '/' ∉ part :=
  fun _ known inside => free (mem_of_mem_splitAtChar known inside)

theorem slash_not_mem_ofParts {pieces : List (List Char)} (free : ∀ part ∈ pieces, '/' ∉ part) :
    '/' ∉ ofParts pieces := by
  intro member
  rcases mem_joinWith member with dash | ⟨part, known, inside⟩
  · cases dash
  · exact free part known inside

theorem slash_not_mem_pascalCase (free : '/' ∉ name) : '/' ∉ pascalCase name := by
  intro member
  obtain ⟨part, known, inside⟩ := List.mem_flatMap.mp member
  have freePart := slash_not_mem_parts free part known
  cases part with
  | nil => cases inside
  | cons c rest =>
      have other : c ≠ '/' := fun same => freePart (by simp [same])
      rcases List.mem_append.mp inside with first | behind
      · exact not_mem_upperChar (by decide) other first
      · exact freePart (List.mem_cons_of_mem c behind)

theorem slash_not_mem_camelCase (free : '/' ∉ name) : '/' ∉ camelCase name := by
  have freePascal := slash_not_mem_pascalCase free
  rw [camelCase]
  cases pascal : pascalCase name with
  | nil => exact List.not_mem_nil
  | cons c rest =>
      rw [pascal] at freePascal
      intro member
      rcases List.mem_append.mp member with first | behind
      · have same : '/' ∈ [c] := (mem_lowerAfter_iff (by decide)).mp first
        exact freePascal (List.mem_append_left rest same)
      · exact freePascal (List.mem_cons_of_mem c behind)

theorem slash_not_mem_apply (free : '/' ∉ name) (naming : Naming) : '/' ∉ naming.apply name := by
  have freeParts := slash_not_mem_parts free
  cases naming with
  | pascalCase => exact slash_not_mem_pascalCase free
  | camelCase => exact slash_not_mem_camelCase free
  | skipFirst =>
      rw [Naming.apply, skipFirst]
      split
      · rename_i first next rest found
        rw [found] at freeParts
        exact slash_not_mem_camelCase
          (slash_not_mem_ofParts fun part known => freeParts part (List.mem_cons_of_mem first known))
      · exact free
  | skipLast =>
      rw [Naming.apply, skipLast]
      split
      · rename_i first next rest found
        rw [found] at freeParts
        exact slash_not_mem_ofParts fun part known => freeParts part (List.dropLast_subset _ known)
      · exact free
  | skipFirstAndLast =>
      rw [Naming.apply, skipFirstAndLast]
      split
      · rename_i first second found
        rw [found] at freeParts
        exact freeParts second (by simp)
      · rename_i first next rest _ found
        rw [found] at freeParts
        exact slash_not_mem_ofParts fun part known =>
          freeParts part (List.mem_cons_of_mem first (List.dropLast_subset _ known))
      · exact free

/-- What a token stands for holds a slash only if the project name does. -/
theorem slash_not_mem_value (free : '/' ∉ name) (token : Token) : '/' ∉ token.value name := by
  cases token with
  | none => exact free
  | some naming => exact slash_not_mem_apply free naming

/-! ## Accepted names -/

theorem name_of {name : String} {port : Int} {p : Parameters} (accepted : Parameters.of name port = .ok p) :
    p.name = name := by
  rw [Parameters.of] at accepted
  split at accepted
  · cases accepted
    rfl
  · cases accepted

variable (p : Parameters)

theorem slash_not_mem_name : '/' ∉ p.name.toList := by
  intro member
  have accepted := p.acceptable
  rw [nameFault?] at accepted
  split at accepted
  · cases accepted
  · split at accepted
    · cases accepted
    · rename_i noSeparator
      exact noSeparator (List.any_eq_true.mpr ⟨'/', member, rfl⟩)

theorem isRelativeSegment_value (token : Token) :
    isRelativeSegment (token.value p.name.toList) = false := by
  have listed : token ∈ Token.all := by
    cases token with
    | none => decide
    | some naming => cases naming <;> decide
  have accepted := p.acceptable
  rw [nameFault?] at accepted
  split at accepted
  · cases accepted
  · split at accepted
    · cases accepted
    · rw [Option.map_eq_none_iff, List.find?_eq_none] at accepted
      simpa using accepted _ (List.mem_map_of_mem listed)

end Stencil.Project
