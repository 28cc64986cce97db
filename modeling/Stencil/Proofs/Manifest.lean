import Mathlib.Data.List.Induction
import Mathlib.Data.String.Basic
import Stencil.Manifest

/-!
# Files under their paths

A builder keeps the last of the files that it was given for a path, and a manifest has the files of its
builder with their paths ascending.
-/

namespace Stencil

/-! ## Builders -/

namespace ManifestBuilder

variable {file : ProjectFile} {entries : List (String × ProjectFile)}

theorem mem_paths_put {path : String} :
    path ∈ (put file entries).map (·.1) ↔ path = file.path ∨ path ∈ entries.map (·.1) := by
  induction entries with
  | nil => simp [put]
  | cons first rest induction =>
      rw [put]
      split
      case isTrue same => simp [same]
      case isFalse =>
        rw [List.map_cons, List.mem_cons, induction, List.map_cons, List.mem_cons]
        exact or_left_comm

theorem nodup_put (distinct : (entries.map (·.1)).Nodup) : ((put file entries).map (·.1)).Nodup := by
  induction entries with
  | nil => simp [put]
  | cons first rest induction =>
      obtain ⟨fresh, others⟩ := List.nodup_cons.mp distinct
      rw [put]
      split
      case isTrue same => exact List.nodup_cons.mpr ⟨same ▸ fresh, others⟩
      case isFalse different =>
        refine List.nodup_cons.mpr ⟨fun member => ?_, induction others⟩
        rcases mem_paths_put.mp member with same | old
        · exact different same
        · exact fresh old

theorem mem_put_iff (distinct : (entries.map (·.1)).Nodup) {entry : String × ProjectFile} :
    entry ∈ put file entries ↔ entry = (file.path, file) ∨ entry.1 ≠ file.path ∧ entry ∈ entries := by
  induction entries with
  | nil => simp [put]
  | cons first rest induction =>
      obtain ⟨fresh, others⟩ := List.nodup_cons.mp distinct
      rw [put]
      split
      case isTrue same =>
        have later (member : entry ∈ rest) : entry.1 ≠ file.path := by
          intro known
          rw [← same] at known
          exact fresh (List.mem_map.mpr ⟨entry, member, known⟩)
        grind
      case isFalse different =>
        rw [List.mem_cons, induction others]
        grind

/-- The entries of a builder that was given some files, one after the other. -/
def gather (files : List ProjectFile) : List (String × ProjectFile) :=
  files.foldl (fun entries file => put file entries) []

theorem gather_concat (files : List ProjectFile) (file : ProjectFile) :
    gather (files ++ [file]) = put file (gather files) := by
  rw [gather, List.foldl_concat, gather]

theorem nodup_gather (files : List ProjectFile) : ((gather files).map (·.1)).Nodup := by
  induction files using List.reverseRecOn with
  | nil => exact .nil
  | append_singleton files file induction =>
      rw [gather_concat]
      exact nodup_put induction

/-- The last file of a path stays. -/
theorem mem_gather_iff {files : List ProjectFile} {path : String} {file : ProjectFile} :
    (path, file) ∈ gather files ↔ (files.filter (·.path = path)).getLast? = some file := by
  induction files using List.reverseRecOn with
  | nil => simp [gather]
  | append_singleton files last induction =>
      rw [gather_concat, mem_put_iff (nodup_gather files), induction, List.filter_append]
      by_cases same : last.path = path
      · simp [same, eq_comm]
      · simp [same, Ne.symm same]

theorem mem_paths_gather_iff {files : List ProjectFile} {path : String} :
    path ∈ (gather files).map (·.1) ↔ path ∈ files.map (·.path) := by
  induction files using List.reverseRecOn with
  | nil => simp [gather]
  | append_singleton files last induction =>
      rw [gather_concat, mem_paths_put, induction, List.map_append, List.mem_append, List.map_singleton,
        List.mem_singleton]
      exact or_comm

theorem mem_of_mem_gather {files : List ProjectFile} {path : String} {file : ProjectFile}
    (member : (path, file) ∈ gather files) : file ∈ files ∧ file.path = path := by
  have last := List.mem_of_getLast? (mem_gather_iff.mp member)
  simpa using last

theorem get?_eq_none_iff {b : ManifestBuilder} {path : String} :
    b.get? path = none ↔ path ∉ b.entries.map (·.1) := by
  rw [get?, Option.map_eq_none_iff, List.find?_eq_none]
  constructor
  · intro different member
    obtain ⟨entry, known, same⟩ := List.mem_map.mp member
    exact different entry known (by simpa using same)
  · intro absent entry known
    have different : entry.1 ≠ path := fun same => absent (List.mem_map.mpr ⟨entry, known, same⟩)
    simpa using different

theorem mem_of_get? {b : ManifestBuilder} {path : String} {file : ProjectFile}
    (found : b.get? path = some file) : (path, file) ∈ b.entries := by
  rw [get?, Option.map_eq_some_iff] at found
  obtain ⟨entry, found, rfl⟩ := found
  have same : entry.1 = path := by simpa using List.find?_some found
  rw [← same]
  exact List.mem_of_find?_eq_some found

end ManifestBuilder

/-! ## Manifests -/

namespace Manifest

variable {path : String} {file : ProjectFile} {entries : List (String × ProjectFile)}

theorem mem_paths_insertSorted {other : String} :
    other ∈ (insertSorted path file entries).map (·.1) ↔ other = path ∨ other ∈ entries.map (·.1) := by
  induction entries with
  | nil => simp [insertSorted]
  | cons first rest induction =>
      rw [insertSorted]
      split
      case isTrue => simp
      case isFalse =>
      split
      case isTrue same => simp [same]
      case isFalse =>
        rw [List.map_cons, List.mem_cons, induction, List.map_cons, List.mem_cons]
        exact or_left_comm

theorem insertSorted_ascending (ascending : entries.Pairwise (·.1 < ·.1)) :
    (insertSorted path file entries).Pairwise (·.1 < ·.1) := by
  induction entries with
  | nil => exact List.pairwise_singleton _ _
  | cons first rest induction =>
      obtain ⟨least, others⟩ := List.pairwise_cons.mp ascending
      rw [insertSorted]
      split
      case isTrue before =>
        refine List.pairwise_cons.mpr ⟨fun other member => ?_, ascending⟩
        rcases List.mem_cons.mp member with rfl | later
        · exact before
        · exact lt_trans before (least other later)
      case isFalse notBefore =>
      split
      case isTrue same =>
        refine List.pairwise_cons.mpr ⟨fun other member => ?_, others⟩
        rw [same]
        exact least other member
      case isFalse different =>
        have after : first.1 < path := lt_of_le_of_ne (not_lt.mp notBefore) (Ne.symm different)
        refine List.pairwise_cons.mpr ⟨fun other member => ?_, induction others⟩
        rcases mem_paths_insertSorted.mp (List.mem_map_of_mem member) with same | old
        · rw [same]
          exact after
        · obtain ⟨entry, known, same⟩ := List.mem_map.mp old
          rw [← same]
          exact least entry known

theorem mem_insertSorted_iff (fresh : path ∉ entries.map (·.1)) {entry : String × ProjectFile} :
    entry ∈ insertSorted path file entries ↔ entry = (path, file) ∨ entry ∈ entries := by
  induction entries with
  | nil => simp [insertSorted]
  | cons first rest induction =>
      have different : path ≠ first.1 := fun same => fresh (by simp [same])
      have freshRest : path ∉ rest.map (·.1) := fun known => fresh (List.mem_cons_of_mem _ known)
      rw [insertSorted, if_neg different]
      split
      case isTrue => exact List.mem_cons
      case isFalse =>
        rw [List.mem_cons, induction freshRest, List.mem_cons]
        exact or_left_comm

theorem mem_paths_ofEntries : path ∈ (ofEntries entries).paths ↔ path ∈ entries.map (·.1) := by
  induction entries using List.reverseRecOn with
  | nil => exact Iff.rfl
  | append_singleton entries last induction =>
      rw [paths, ofEntries, List.foldl_concat, mem_paths_insertSorted, List.map_append, List.mem_append,
        List.map_singleton, List.mem_singleton]
      rw [paths, ofEntries] at induction
      rw [induction]
      exact or_comm

/-- The paths of a manifest ascend. -/
theorem ofEntries_ascending (entries : List (String × ProjectFile)) :
    (ofEntries entries).entries.Pairwise (·.1 < ·.1) := by
  induction entries using List.reverseRecOn with
  | nil => exact .nil
  | append_singleton entries last induction =>
      rw [ofEntries, List.foldl_concat]
      exact insertSorted_ascending induction

theorem mem_ofEntries_iff (distinct : (entries.map (·.1)).Nodup) {entry : String × ProjectFile} :
    entry ∈ (ofEntries entries).entries ↔ entry ∈ entries := by
  induction entries using List.reverseRecOn generalizing entry with
  | nil => exact Iff.rfl
  | append_singleton entries last induction =>
      rw [List.map_append, List.nodup_append] at distinct
      obtain ⟨others, -, apart⟩ := distinct
      have fresh : last.1 ∉ (ofEntries entries).entries.map (·.1) := fun member =>
        apart _ (mem_paths_ofEntries.mp member) _ (by simp) rfl
      rw [ofEntries, List.foldl_concat]
      rw [ofEntries] at fresh induction
      rw [mem_insertSorted_iff fresh, induction others, List.mem_append, List.mem_singleton]
      exact or_comm

end Manifest

end Stencil
