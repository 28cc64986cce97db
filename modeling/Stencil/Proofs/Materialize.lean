import Stencil.Materialize
import Stencil.Proofs.Manifest
import Stencil.Proofs.Work

/-!
# The paths of manifests

Every path of a manifest is a renamed path of something below the root of the tree that it was made from.
-/

namespace Stencil.Materializer

variable (m : Materializer) (p : Project.Parameters)

/-! ## Builders -/

theorem entries_add {b b' : ManifestBuilder} {file : ProjectFile} {log : List Log.Entry}
    (added : b.add file = .ok (b', log)) : b'.entries = ManifestBuilder.put file b.entries := by
  rw [ManifestBuilder.add] at added
  split at added
  · cases added
  · simp only at added
    split at added
    · cases added
      rfl
    · split at added
      · cases added
        rfl
      · cases added

/-! ## Files -/

theorem makeFile_path (source : List Char) (path : String) (c : Classification) (w : Workspace) :
    Ensures (m.makeFile p source path c) w (fun file _ => file.path = path) fun _ _ => True := by
  refine .bind (.bind (.get ?_))
  refine .pure ?_
  cases w.disk.read source with
  | error fault => exact .throw trivial
  | ok bytes =>
      cases c with
      | base64 => exact .pure rfl
      | text =>
          simp only
          cases Text.Utf8.decode bytes with
          | error fault => exact .throw trivial
          | ok text => exact .pure rfl
      | template =>
          simp only
          cases Text.Utf8.decode bytes with
          | error fault => exact .throw trivial
          | ok text =>
              exact .bind ((Ensures.trivial _ _).mono (fun _ _ _ => .pure rfl) fun _ _ _ => trivial)

/-- Whether every path of a builder is the renamed path of one of some routes. -/
def Renames (routes : List Disk.Route) (progress : Progress) : Prop :=
  ∀ entry ∈ progress.builder.entries, ∃ names ∈ routes,
    entry.1 = Project.renamePath p.name (String.ofList (Disk.joinWith '/' names))

theorem takeIn_renames (root : List Char) {routes : List Disk.Route} {names : Disk.Route}
    (listed : names ∈ routes) {progress : Progress} (renames : Renames p routes progress) (w : Workspace) :
    Ensures (m.takeIn p root progress names) w (fun after _ => Renames p routes after) fun _ _ => True := by
  refine .bind (.bind (.get (.pure ?_)))
  split
  · exact .pure renames
  · refine .bind ((m.makeFile_path p _ _ _ _).mono (fun file t path => ?_) fun _ _ _ => trivial)
    split
    · exact .throw trivial
    · rename_i builder log added
      refine .bind ((Ensures.trivial _ _).mono (fun _ _ _ => .pure ?_) fun _ _ _ => trivial)
      intro entry known
      rw [entries_add added] at known
      rcases ManifestBuilder.mem_paths_put.mp (List.mem_map_of_mem known) with new | old
      · exact ⟨names, listed, new.trans path⟩
      · obtain ⟨earlier, inside, same⟩ := List.mem_map.mp old
        exact same ▸ renames earlier inside

/-- The paths of a manifest are those of what is below the root, renamed. -/
theorem materialize_paths (root : List Char) (w : Workspace) :
    Ensures (m.materialize root p) w
      (fun manifest _ => ∀ path ∈ manifest.paths, ∃ names ∈ namesUnder w.disk root,
        path = Project.renamePath p.name (String.ofList (Disk.joinWith '/' names)))
      fun _ _ => True := by
  refine .bind (.bind (.get (.pure ?_)))
  refine .bind (Ensures.mono (Ensures.foldlM (fun progress names listed t renames =>
    m.takeIn_renames p root listed renames t) (by nofun))
    (fun progress t renames => ?_) fun _ _ _ => trivial)
  refine .bind ((Ensures.trivial _ _).mono (fun _ _ _ => .pure ?_) fun _ _ _ => trivial)
  intro path known
  obtain ⟨entry, inside, rfl⟩ := List.mem_map.mp (Manifest.mem_paths_ofEntries.mp known)
  exact renames entry inside

end Stencil.Materializer
