import Mathlib
import Stencil.Proofs.Disk.Path
import Stencil.Proofs.Text.LetterCase
import Stencil.Project.Naming

/-!
# Names taken apart at their dashes

A dash ends one part of a name and begins the next one, wherever it stands: so names made from two names with a dash
between them are made from these names, and the ways to leave a part out take back the putting in front or behind of
one.  Parts may be empty, at either end and in between.
-/

namespace Stencil

namespace Text

/-- No character vanishes in upper case. -/
theorem upperChar_ne_nil (c : Char) : upperChar c ≠ [] := by
  have images : ∀ expansion ∈ upperExpansions, expansion.2 ≠ [] := by decide +kernel
  rw [upperChar]
  split
  · exact List.cons_ne_nil _ _
  · rw [mapCase]
    split
    · rename_i code image found
      exact mt List.map_eq_nil_iff.mp (images _ (List.mem_of_find?_eq_some found))
    · exact List.cons_ne_nil _ _

end Text

namespace Project

open Disk

variable {a m b name : List Char}

/-! ## Parts -/

theorem parts_append_dash (a b : List Char) : parts (a ++ '-' :: b) = parts a ++ parts b :=
  splitAtChar_append_separator a b

theorem parts_of_not_mem (free : '-' ∉ name) : parts name = [name] :=
  splitAtChar_of_not_mem free

theorem ofParts_parts (name : List Char) : ofParts (parts name) = name :=
  joinWith_splitAtChar '-' name

theorem parts_ne_nil (name : List Char) : parts name ≠ [] :=
  splitAtChar_ne_nil '-' name

/-- A name has nothing but empty parts exactly if it is made of dashes. -/
theorem parts_empty_iff : (∀ part ∈ parts name, part = []) ↔ ∀ c ∈ name, c = '-' := by
  constructor
  · intro empty c known
    rw [← ofParts_parts name] at known
    rcases mem_joinWith known with dash | ⟨part, listed, inside⟩
    · exact dash
    · rw [empty part listed] at inside
      cases inside
  · intro dashes part listed
    refine List.eq_nil_iff_forall_not_mem.mpr fun c inside => ?_
    have dash := dashes c (mem_of_mem_splitAtChar listed inside)
    exact not_mem_of_mem_splitAtChar listed (dash ▸ inside)

/-! ## Letters at the heads of parts -/

theorem upperFirst_eq_nil_iff {part : List Char} : upperFirst part = [] ↔ part = [] := by
  cases part with
  | nil => exact Iff.rfl
  | cons c rest =>
      refine iff_of_false ?_ (List.cons_ne_nil c rest)
      exact List.append_ne_nil_of_left_ne_nil (Text.upperChar_ne_nil c) rest

theorem lowerFirst_append {s : List Char} (some : s ≠ []) (t : List Char) :
    lowerFirst (s ++ t) = lowerFirst s ++ t := by
  cases s with
  | nil => exact absurd rfl some
  | cons c rest => rw [List.cons_append, lowerFirst, lowerFirst, List.append_assoc]

theorem pascalCase_append_dash (a b : List Char) :
    pascalCase (a ++ '-' :: b) = pascalCase a ++ pascalCase b := by
  rw [pascalCase, parts_append_dash, List.flatMap_append, pascalCase, pascalCase]

/-- Only of a name made of dashes nothing is left. -/
theorem pascalCase_eq_nil_iff : pascalCase name = [] ↔ ∀ c ∈ name, c = '-' := by
  rw [pascalCase, List.flatMap_eq_nil_iff, ← parts_empty_iff]
  exact forall₂_congr fun part _ => upperFirst_eq_nil_iff

theorem camelCase_append_dash (some : ∃ c ∈ a, c ≠ '-') (b : List Char) :
    camelCase (a ++ '-' :: b) = camelCase a ++ pascalCase b := by
  have left : pascalCase a ≠ [] := by
    obtain ⟨c, known, other⟩ := some
    exact fun none => other (pascalCase_eq_nil_iff.mp none c known)
  rw [camelCase, pascalCase_append_dash, lowerFirst_append left, camelCase]

theorem camelCase_dashes_append_dash (dashes : ∀ c ∈ a, c = '-') (b : List Char) :
    camelCase (a ++ '-' :: b) = camelCase b := by
  rw [camelCase, pascalCase_append_dash, pascalCase_eq_nil_iff.mpr dashes, List.nil_append, camelCase]

/-! ## Parts left out -/

theorem skipFirst_of_parts {first : List Char} {others : List (List Char)} (some : others ≠ [])
    (split : parts name = first :: others) : skipFirst name = camelCase (ofParts others) := by
  obtain ⟨next, rest, rfl⟩ := List.exists_cons_of_ne_nil some
  rw [skipFirst, split]

theorem skipLast_of_parts {others : List (List Char)} {last : List Char} (some : others ≠ [])
    (split : parts name = others ++ [last]) : skipLast name = ofParts others := by
  obtain ⟨first, rest, rfl⟩ := List.exists_cons_of_ne_nil some
  have some' : rest ++ [last] ≠ [] := by simp
  obtain ⟨next, more, behind⟩ := List.exists_cons_of_ne_nil some'
  rw [List.cons_append, behind] at split
  rw [skipLast, split]
  change ofParts (first :: next :: more).dropLast = _
  rw [← behind, ← List.cons_append, List.dropLast_concat]

theorem skipFirstAndLast_of_parts {first : List Char} {middle : List (List Char)} {last : List Char}
    (some : middle ≠ []) (split : parts name = first :: (middle ++ [last])) :
    skipFirstAndLast name = ofParts middle := by
  obtain ⟨next, rest, rfl⟩ := List.exists_cons_of_ne_nil some
  have some' : rest ++ [last] ≠ [] := by simp
  obtain ⟨other, more, behind⟩ := List.exists_cons_of_ne_nil some'
  rw [List.cons_append, behind] at split
  rw [skipFirstAndLast, split]
  change ofParts (next :: other :: more).dropLast = _
  rw [← behind, ← List.cons_append, List.dropLast_concat]

theorem skipFirst_append_dash (free : '-' ∉ a) (b : List Char) : skipFirst (a ++ '-' :: b) = camelCase b := by
  have split : parts (a ++ '-' :: b) = a :: parts b := by
    rw [parts_append_dash, parts_of_not_mem free, List.singleton_append]
  rw [skipFirst_of_parts (parts_ne_nil b) split, ofParts_parts]

theorem skipLast_append_dash (a : List Char) (free : '-' ∉ b) : skipLast (a ++ '-' :: b) = a := by
  have split : parts (a ++ '-' :: b) = parts a ++ [b] := by
    rw [parts_append_dash, parts_of_not_mem free]
  rw [skipLast_of_parts (parts_ne_nil a) split, ofParts_parts]

theorem skipFirstAndLast_append_dashes (free : '-' ∉ a) (m : List Char) (free' : '-' ∉ b) :
    skipFirstAndLast (a ++ '-' :: (m ++ '-' :: b)) = m := by
  have split : parts (a ++ '-' :: (m ++ '-' :: b)) = a :: (parts m ++ [b]) := by
    rw [parts_append_dash, parts_append_dash, parts_of_not_mem free, parts_of_not_mem free', List.singleton_append]
  rw [skipFirstAndLast_of_parts (parts_ne_nil m) split, ofParts_parts]

theorem skipFirstAndLast_append_dash (free : '-' ∉ a) (free' : '-' ∉ b) : skipFirstAndLast (a ++ '-' :: b) = b := by
  rw [skipFirstAndLast, parts_append_dash, parts_of_not_mem free, parts_of_not_mem free', List.singleton_append]

/-- Of a name that is a single part no part is left out. -/
theorem skips_of_not_mem (free : '-' ∉ name) :
    skipFirst name = name ∧ skipLast name = name ∧ skipFirstAndLast name = name := by
  rw [skipFirst, skipLast, skipFirstAndLast, parts_of_not_mem free]
  exact ⟨rfl, rfl, rfl⟩

/-! ## All ways -/

/-- Names made from two names with a dash between them are made from these names: parts run together are those of the
first and then those of the second, of which the very first begins with a small letter where that is asked for, and a
name without dashes in front or behind is what the ways to leave a part out leave out. -/
theorem namings_append_dash (a m b : List Char) :
    pascalCase (a ++ '-' :: b) = pascalCase a ++ pascalCase b ∧
    ((∃ c ∈ a, c ≠ '-') → camelCase (a ++ '-' :: b) = camelCase a ++ pascalCase b) ∧
    ((¬∃ c ∈ a, c ≠ '-') → camelCase (a ++ '-' :: b) = camelCase b) ∧
    ('-' ∉ a → skipFirst (a ++ '-' :: b) = camelCase b) ∧
    ('-' ∉ b → skipLast (a ++ '-' :: b) = a) ∧
    ('-' ∉ a → '-' ∉ b →
      skipFirstAndLast (a ++ '-' :: (m ++ '-' :: b)) = m ∧ skipFirstAndLast (a ++ '-' :: b) = b) ∧
    ('-' ∉ a → skipFirst a = a ∧ skipLast a = a ∧ skipFirstAndLast a = a) := by
  refine ⟨pascalCase_append_dash a b, fun some => camelCase_append_dash some b, fun none => ?_,
    fun free => skipFirst_append_dash free b, fun free => skipLast_append_dash a free,
    fun free free' => ⟨skipFirstAndLast_append_dashes free m free', skipFirstAndLast_append_dash free free'⟩,
    skips_of_not_mem⟩
  exact camelCase_dashes_append_dash (fun c known => by_contra fun other => none ⟨c, known, other⟩) b

/-- A letter that has no capital of its own, empty parts in the middle, and a name in front that is made of dashes. -/
theorem namings_append_dash_sharp :
    '-' ∉ ['ß', 'a'] ∧ '-' ∉ ['x'] ∧
      camelCase ['ß', 'a', '-', 'x'] = ['s', 'S', 'a'] ++ ['X'] ∧
      skipFirst ['ß', 'a', '-', 'x'] = ['x'] ∧ skipLast ['ß', 'a', '-', 'x'] = ['ß', 'a'] ∧
      skipFirstAndLast ['ß', 'a', '-', '-', 'y', '-', '-', 'x'] = ['-', 'y', '-'] ∧
      skipFirst ['x'] = ['x'] ∧
      camelCase ['-', '-', '-', 'x', '-', 'y'] = ['x', 'Y'] := by
  have free : '-' ∉ ['ß', 'a'] := by simp
  have free' : '-' ∉ ['x'] := by simp
  obtain ⟨-, camel, -, first, last, both, -⟩ := namings_append_dash ['ß', 'a'] ['-', 'y', '-'] ['x']
  obtain ⟨-, -, dashes, -⟩ := namings_append_dash ['-', '-'] [] ['x', '-', 'y']
  obtain ⟨-, -, -, -, -, -, single⟩ := namings_append_dash ['x'] [] []
  refine ⟨free, free', (camel ⟨'a', by simp⟩).trans (by decide +kernel),
    (first free).trans (by decide +kernel), last free', (both free free').1, (single free').1,
    (dashes (by simp)).trans (by decide +kernel)⟩

end Project

end Stencil
