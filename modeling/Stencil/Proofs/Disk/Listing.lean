import Mathlib.Data.List.Sort
import Mathlib.Data.String.Basic
import Stencil.Disk.Operations
import Stencil.Proofs.Disk.Walking

/-!
# Listings

Everything below a place is listed once, ascending name by name, and so are the files among it.
-/

namespace Stencil.Disk

/-! ## Names below a place -/

theorem mem_insertRoute {route other : Route} {routes : List Route} :
    other ∈ insertRoute route routes ↔ other = route ∨ other ∈ routes := by
  induction routes with
  | nil => simp [insertRoute]
  | cons next rest induction =>
      rw [insertRoute]
      split
      · simp
      · rw [List.mem_cons, induction, List.mem_cons]
        exact or_left_comm

theorem insertRoute_ascending {route : Route} {routes : List Route} (fresh : route ∉ routes)
    (ascending : routes.Pairwise (· < ·)) : (insertRoute route routes).Pairwise (· < ·) := by
  induction routes with
  | nil => exact List.pairwise_singleton _ route
  | cons next rest induction =>
      obtain ⟨first, others⟩ := List.pairwise_cons.mp ascending
      rw [insertRoute]
      split
      case isTrue before =>
        refine List.pairwise_cons.mpr ⟨fun other member => ?_, ascending⟩
        rcases List.mem_cons.mp member with rfl | later
        · exact before
        · exact lt_trans before (first other later)
      case isFalse notBefore =>
        have different : next ≠ route := fun same => fresh (same ▸ List.mem_cons_self)
        have after : next < route := lt_of_le_of_ne (not_lt.mp notBefore) different
        have freshRest : route ∉ rest := fun member => fresh (List.mem_cons_of_mem next member)
        refine List.pairwise_cons.mpr ⟨fun other member => ?_, induction freshRest others⟩
        rcases mem_insertRoute.mp member with rfl | later
        · exact after
        · exact first other later

theorem mem_foldr_insertRoute {routes : List Route} {other : Route} :
    other ∈ routes.foldr insertRoute [] ↔ other ∈ routes := by
  induction routes with
  | nil => simp
  | cons route routes induction => rw [List.foldr_cons, mem_insertRoute, induction, List.mem_cons]

theorem foldr_insertRoute_ascending {routes : List Route} (distinct : routes.Nodup) :
    (routes.foldr insertRoute []).Pairwise (· < ·) := by
  induction routes with
  | nil => exact .nil
  | cons route routes induction =>
      obtain ⟨fresh, others⟩ := List.nodup_cons.mp distinct
      exact insertRoute_ascending (fun member => fresh (mem_foldr_insertRoute.mp member)) (induction others)

variable {d : Disk} {place : Route}

theorem mem_namesBelow {names : Route} :
    names ∈ d.namesBelow place ↔ names ≠ [] ∧ d.get? (place ++ names) ≠ none := by
  rw [namesBelow, mem_foldr_insertRoute, List.mem_filterMap]
  constructor
  · rintro ⟨entry, known, below⟩
    split at below
    case isFalse => cases below
    case isTrue inside =>
      obtain ⟨rest, whole⟩ := List.isPrefixOf_iff_prefix.mp inside.1
      cases below
      rw [← whole, List.drop_left]
      have more : rest ≠ [] := by
        rintro rfl
        exact inside.2 (by simpa using whole)
      refine ⟨more, (get?_ne_none_iff (by simp [more])).mpr ⟨entry, known, whole.symm⟩⟩
  · rintro ⟨more, held⟩
    obtain ⟨entry, known, same⟩ := (get?_ne_none_iff (by simp [more])).mp held
    refine ⟨entry, known, ?_⟩
    simp [same, more]

/-- On a disk that holds one thing at every place, what is below a place is listed in order. -/
theorem namesBelow_ascending (distinct : (d.places.map (·.1)).Nodup) :
    (d.namesBelow place).Pairwise (· < ·) := by
  apply foldr_insertRoute_ascending
  have entries : d.places.Pairwise fun a b => a.1 ≠ b.1 := List.pairwise_map.mp distinct
  refine List.Pairwise.filterMap _ (fun a b differ names below names' below' same => ?_) entries
  split at below
  case isFalse => cases below
  case isTrue inside =>
  split at below'
  case isFalse => cases below'
  case isTrue inside' =>
    obtain ⟨rest, whole⟩ := List.isPrefixOf_iff_prefix.mp inside.1
    obtain ⟨rest', whole'⟩ := List.isPrefixOf_iff_prefix.mp inside'.1
    cases below
    cases below'
    rw [← whole, ← whole', List.drop_left, List.drop_left] at same
    exact differ (by rw [← whole, ← whole', same])

/-! ## Files below a place -/

/-- The files below a place, with their bytes, ascending name by name. -/
structure Lists (d : Disk) (place : Route) (files : List (Route × Bytes)) : Prop where
  /-- Every file comes once, and before those with greater names. -/
  ascending : files.Pairwise (·.1 < ·.1)
  /-- They are what the place has below it. -/
  exact : ∀ names bytes,
    (names, bytes) ∈ files ↔ ∃ mode, d.get? (place ++ names) = some (.file bytes mode)

/-- The file that names lead to, if they lead to one. -/
def fileAt? (d : Disk) (place names : Route) : Option (Route × Bytes) :=
  match d.get? (place ++ names) with
  | some (.file bytes _) => some (names, bytes)
  | _ => none

theorem fileAt?_eq_some_iff {names : Route} {file : Route × Bytes} :
    d.fileAt? place names = some file ↔
      file.1 = names ∧ ∃ mode, d.get? (place ++ names) = some (.file file.2 mode) := by
  obtain ⟨route, bytes⟩ := file
  rw [fileAt?]
  split
  case h_1 content mode held => simp [held, eq_comm]
  case h_2 other =>
    refine iff_of_false (by simp) ?_
    rintro ⟨-, mode, held⟩
    exact other _ _ held

theorem lists_namesBelow (distinct : (d.places.map (·.1)).Nodup) (opened : d.HoldsDirectory place) :
    Lists d place ((d.namesBelow place).filterMap (d.fileAt? place)) := by
  constructor
  · refine List.Pairwise.filterMap _ (fun names names' before file found file' found' => ?_)
      (namesBelow_ascending distinct)
    rwa [(fileAt?_eq_some_iff.mp found).1, (fileAt?_eq_some_iff.mp found').1]
  · intro names bytes
    rw [List.mem_filterMap]
    constructor
    · rintro ⟨route, -, found⟩
      obtain ⟨rfl, held⟩ := fileAt?_eq_some_iff.mp found
      exact held
    · rintro ⟨mode, held⟩
      refine ⟨names, mem_namesBelow.mpr ⟨?_, by simp [held]⟩, fileAt?_eq_some_iff.mpr ⟨rfl, mode, held⟩⟩
      rintro rfl
      obtain ⟨directory, inside⟩ := opened
      simp [inside] at held

/-- There is only one listing of the files below a place. -/
theorem Lists.unique {files files' : List (Route × Bytes)} (lists : Lists d place files)
    (lists' : Lists d place files') : files = files' := by
  have irreflexive : Std.Irrefl fun a b : Route × Bytes => a.1 < b.1 := ⟨fun a => lt_irrefl a.1⟩
  have antisymmetric : Std.Antisymm fun a b : Route × Bytes => a.1 < b.1 :=
    ⟨fun a b before after => absurd after (lt_asymm before)⟩
  apply lists.ascending.eq_of_mem_iff lists'.ascending
  intro file
  exact (lists.exact file.1 file.2).trans (lists'.exact file.1 file.2).symm

end Stencil.Disk
