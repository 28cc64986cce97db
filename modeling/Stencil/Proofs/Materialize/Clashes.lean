import Stencil.Proofs.Materialize.RoundTrip

/-!
# Files where directories are meant

The paths of a manifest make a tree unless a file stands where another one needs a directory.  Names are
renamed one by one, so this comes about when a file and a directory on the way to another file get the same
new path.  Collisions are looked for among whole paths only, and do not show it.
-/

namespace Stencil

/-- Whether the files of a manifest can stand in one repository: no path leads on from another one. -/
def Manifest.IsTree (manifest : Manifest) : Prop :=
  ∀ path ∈ manifest.paths, ∀ other ∈ manifest.paths, ¬path.toList ++ ['/'] <+: other.toList

namespace Disk

variable {separator : Char}

/-- One path leads on from another one exactly if it has its pieces, and then some. -/
theorem append_separator_isPrefix_iff {path other : List Char} :
    path ++ [separator] <+: other ↔
      ∃ rest, rest ≠ [] ∧ splitAtChar separator other = splitAtChar separator path ++ rest := by
  constructor
  · rintro ⟨behind, rfl⟩
    refine ⟨splitAtChar separator behind, splitAtChar_ne_nil separator behind, ?_⟩
    rw [List.append_assoc, List.singleton_append, splitAtChar_append_separator]
  · rintro ⟨rest, some, pieces⟩
    have free : ∀ piece ∈ rest, separator ∉ piece := fun piece known =>
      not_mem_of_mem_splitAtChar (pieces ▸ List.mem_append_right _ known)
    refine ⟨joinWith separator rest, ?_⟩
    rw [List.append_assoc, List.singleton_append, ← joinWith_splitAtChar separator other, pieces,
      ← joinWith_splitAtChar separator (path ++ separator :: joinWith separator rest),
      splitAtChar_append_separator, splitAtChar_joinWith some free]

end Disk

namespace Materializer

open Disk (Route Tree Lists splitAtChar)

variable {m : Materializer} {p : Project.Parameters} {root : List Char}

/-! ## New paths -/

theorem splitAtChar_newPath {names : Route} (some : names ≠ []) (areNames : ∀ name ∈ names, Disk.IsName name) :
    splitAtChar '/' (newPath p names).toList = names.map (Project.renameChars p.name.toList) := by
  rw [newPath, Project.splitAtChar_renamePath, String.toList_ofList,
    Disk.splitAtChar_joinWith some fun name known => (areNames name known).2.2]

theorem newPath_eq_iff {names others : Route} (some : names ≠ []) (areNames : ∀ name ∈ names, Disk.IsName name)
    (some' : others ≠ []) (areNames' : ∀ name ∈ others, Disk.IsName name) :
    newPath p names = newPath p others ↔
      names.map (Project.renameChars p.name.toList) = others.map (Project.renameChars p.name.toList) := by
  rw [← splitAtChar_newPath some areNames, ← splitAtChar_newPath some' areNames']
  constructor
  · intro same
    rw [same]
  · intro same
    apply String.toList_injective
    rw [← Disk.joinWith_splitAtChar '/' (newPath p names).toList, same, Disk.joinWith_splitAtChar]

/-- The new path of a file leads on from that of another one exactly if one of its directories has it. -/
theorem newPath_isPrefix_iff {names others : Route} (some : names ≠ [])
    (areNames : ∀ name ∈ names, Disk.IsName name) (some' : others ≠ [])
    (areNames' : ∀ name ∈ others, Disk.IsName name) :
    (newPath p names).toList ++ ['/'] <+: (newPath p others).toList ↔
      ∃ folder, folder ≠ [] ∧ folder <+: others ∧ folder ≠ others ∧ newPath p folder = newPath p names := by
  rw [Disk.append_separator_isPrefix_iff, splitAtChar_newPath some areNames, splitAtChar_newPath some' areNames']
  constructor
  · rintro ⟨rest, more, renamed⟩
    obtain ⟨folder, behind, rfl, same, rfl⟩ := List.map_eq_append_iff.mp renamed
    have someFolder : folder ≠ [] := by
      rintro rfl
      exact some (by simpa using same.symm)
    refine ⟨folder, someFolder, List.prefix_append folder behind, by simpa using more, ?_⟩
    rw [newPath_eq_iff someFolder (fun name known => areNames' name (List.mem_append_left _ known)) some areNames]
    exact same
  · rintro ⟨folder, someFolder, ⟨behind, rfl⟩, less, same⟩
    rw [newPath_eq_iff someFolder (fun name known => areNames' name (List.mem_append_left _ known)) some
      areNames] at same
    exact ⟨behind.map _, by simpa using less, by rw [List.map_append, same]⟩

/-! ## Trees -/

variable (p) in
/-- Whether no file gets the new path of a directory that leads to another file. -/
def KeepsApart (files : List (Route × Bytes)) : Prop :=
  ∀ file ∈ files, ∀ other ∈ files, ∀ folder : Route, folder ≠ [] → folder <+: other.1 → folder ≠ other.1 →
    newPath p folder ≠ newPath p file.1

/-- The manifest of a tree has the new paths of its files. -/
theorem mem_paths_iff {w t : Workspace} {place : Route} (tree : Tree w.disk root place)
    (distinct : (w.disk.places.map (·.1)).Nodup) {files : List (Route × Bytes)}
    (lists : Lists w.disk place files) {manifest : Manifest}
    (ran : (m.materialize root p).run w = (.ok manifest, t)) {path : String} :
    path ∈ manifest.paths ↔ ∃ file ∈ files, newPath p file.1 = path := by
  have ensures := ensures_materialize (m := m) (p := p) tree distinct lists
  unfold Ensures at ensures
  rw [ran] at ensures
  obtain ⟨⟨made, makes, -, rfl⟩, -⟩ := ensures
  rw [Manifest.mem_paths_ofEntries, ManifestBuilder.mem_paths_gather_iff, paths_of_forall₂ makes, List.mem_map]

/-- A tree without faults becomes a manifest. -/
theorem IsFaultless.exists_manifest {w : Workspace} {place : Route} {files : List (Route × Bytes)}
    (faultless : IsFaultless m p files) (tree : Tree w.disk root place)
    (distinct : (w.disk.places.map (·.1)).Nodup) (lists : Lists w.disk place files) :
    ∃ manifest t, (m.materialize root p).run w = (.ok manifest, t) := by
  rcases (ensures_materialize (m := m) (p := p) tree distinct lists).outcome with
    ⟨manifest, t, ran, -⟩ | ⟨fault, t, ran, ⟨before, file, later, made, rfl, makes, -, stops⟩, -⟩
  · exact ⟨manifest, t, ran⟩
  · exact absurd stops (faultless.not_stops makes)

/-- The names of a file of a tree lead on from its directory, and are names. -/
theorem areNames_of_lists {d : Disk} {place : Route} (tree : Tree d root place)
    {files : List (Route × Bytes)} (lists : Lists d place files) {file : Route × Bytes} (known : file ∈ files) :
    file.1 ≠ [] ∧ ∀ name ∈ file.1, Disk.IsName name := by
  obtain ⟨mode, held⟩ := (lists.exact file.1 file.2).mp known
  constructor
  · intro empty
    obtain ⟨mode', directory⟩ := tree.holdsDirectory
    rw [empty, List.append_nil, directory] at held
    cases held
  · exact (tree.fits file.1 (by simp [held])).areNames

/-- Paths without tokens are kept, and so are the trees that they make. -/
theorem keepsApart_of_isTokenFree {d : Disk} {place : Route} (tree : Tree d root place)
    {files : List (Route × Bytes)} (lists : Lists d place files)
    (free : ∀ file ∈ files, Project.IsTokenFree (Disk.joinWith '/' file.1)) : KeepsApart p files := by
  intro file known other known' folder some early less same
  have freeFolder : Project.IsTokenFree (Disk.joinWith '/' folder) := fun token inside =>
    free other known' token (inside.trans (Disk.joinWith_isPrefix '/' early).isInfix)
  rw [newPath_of_isTokenFree freeFolder, newPath_of_isTokenFree (free file known)] at same
  obtain rfl := eq_of_path
    (fun name inside => (areNames_of_lists tree lists known').2 name (early.subset inside))
    (areNames_of_lists tree lists known).2 same
  obtain ⟨mode, held⟩ := (lists.exact other.1 other.2).mp known'
  obtain ⟨mode', standing⟩ := (lists.exact file.1 file.2).mp known
  obtain ⟨mode'', directory⟩ := tree.wellFormed.holdsDirectory_of_prefix
    ((List.prefix_append_right_inj place).mpr early) (by simpa using less) (by simp [held])
  rw [standing] at directory
  cases directory

/-- A manifest is a tree exactly if no file gets the new path of a directory that leads to another one.  That
one does is no collision: these come about only where two files get the same whole path. -/
theorem materialize_isTree_iff {w : Workspace} {place : Route} (tree : Tree w.disk root place)
    (distinct : (w.disk.places.map (·.1)).Nodup) {files : List (Route × Bytes)}
    (lists : Lists w.disk place files) :
    (∀ manifest t, (m.materialize root p).run w = (.ok manifest, t) →
      (manifest.IsTree ↔ KeepsApart p files)) ∧
    ∀ fault t, (m.materialize root p).run w = (.error (.manifest fault), t) →
      ¬(files.map fun file => newPath p file.1).Nodup := by
  constructor
  · intro manifest t ran
    have listed {path : String} : path ∈ manifest.paths ↔ ∃ file ∈ files, newPath p file.1 = path :=
      mem_paths_iff tree distinct lists ran
    have leadsOn {file other : Route × Bytes} (known : file ∈ files) (known' : other ∈ files) :=
      newPath_isPrefix_iff (p := p) (areNames_of_lists tree lists known).1 (areNames_of_lists tree lists known).2
        (areNames_of_lists tree lists known').1 (areNames_of_lists tree lists known').2
    constructor
    · intro isTree file known other known' folder some early less same
      apply isTree _ (listed.mpr ⟨file, known, rfl⟩) _ (listed.mpr ⟨other, known', rfl⟩)
      exact (leadsOn known known').mpr ⟨folder, some, early, less, same⟩
    · intro apart path inside other inside' beyond
      obtain ⟨file, known, rfl⟩ := listed.mp inside
      obtain ⟨file', known', rfl⟩ := listed.mp inside'
      obtain ⟨folder, some, early, less, same⟩ := (leadsOn known known').mp beyond
      exact apart file known file' known' folder some early less same
  · intro fault t ran nodup
    have ensures := ensures_materialize (m := m) (p := p) tree distinct lists
    unfold Ensures at ensures
    rw [ran] at ensures
    obtain ⟨⟨before, file, later, made, rfl, makes, -, stops⟩, -⟩ := ensures
    cases stops with
    | collision isMade barred known same =>
        have taken : newPath p file.1 ∈ before.map fun file => newPath p file.1 := by
          rw [← paths_of_forall₂ makes, ← isMade.path, ← same]
          exact List.mem_map_of_mem known
        rw [List.map_append, List.nodup_append] at nodup
        exact nodup.2.2 _ taken _ (by simp) rfl

/-! ## Two trees -/

/-- The paths of the tree at `/t` have no tokens, so its manifest is a tree. -/
theorem materialize_isTree_sample :
    ∃ manifest t, (materialize {} ['/', 't'] ⟨"demo", Project.noPort, by decide⟩).run { disk := sampleDisk } =
      (.ok manifest, t) ∧ manifest.IsTree := by
  let w : Workspace := { disk := sampleDisk }
  let p : Project.Parameters := ⟨"demo", Project.noPort, by decide⟩
  have tree : Tree w.disk ['/', 't'] [['t']] := tree_sampleDisk
  obtain ⟨manifest, t, ran⟩ := isFaultless_sampleFiles.exists_manifest (p := p) tree nodup_sampleDisk
    lists_sampleDisk
  refine ⟨manifest, t, ran, ?_⟩
  rw [(materialize_isTree_iff tree nodup_sampleDisk lists_sampleDisk).1 manifest t ran]
  exact keepsApart_of_isTokenFree tree lists_sampleDisk isTokenFree_sampleFiles

/-- A disk with a tree at `/t`, where a file is named for the project and a directory has the name of one. -/
def clashDisk : Disk where
  places :=
    [([['t']], .directory Disk.directoryMode), ([['t'], "demo".toList], .directory Disk.directoryMode),
      ([['t'], "demo".toList, ['x']], .file [] Disk.fileMode),
      ([['t'], Project.Token.spelling none], .file [] Disk.fileMode)]

/-- The files of that tree. -/
def clashFiles : List (Route × Bytes) :=
  [(["demo".toList, ['x']], []), ([Project.Token.spelling none], [])]

theorem tree_clashDisk : Tree clashDisk ['/', 't'] [['t']] := by
  have walks : clashDisk.Walks true Disk.mostLinks [] [['t']] ⟨[['t']], some (.directory Disk.directoryMode)⟩ :=
    .down ⟨_, rfl⟩ (by decide) (by decide) rfl nofun .arrived
  have opened : clashDisk.locate true ['/', 't'] = .ok ⟨[['t']], some (.directory Disk.directoryMode)⟩ := walks.walk
  exact .of_forall_mem opened (by decide) (by decide)

theorem nodup_clashDisk : (clashDisk.places.map (·.1)).Nodup := by
  decide

theorem lists_clashDisk : Lists clashDisk [['t']] clashFiles := by
  have listing : (clashDisk.namesBelow [['t']]).filterMap (clashDisk.fileAt? [['t']]) = clashFiles := by
    decide
  rw [← listing]
  exact Disk.lists_namesBelow nodup_clashDisk (by decide)

theorem newPath_spelling (token : Project.Token) :
    newPath p [token.spelling] = String.ofList (token.value p.name.toList) := by
  have alone := Project.renameChars_spelling p.name.toList token []
  rw [List.append_nil, Project.renameChars_nil, List.append_nil] at alone
  rw [newPath, Project.renamePath, String.toList_ofList, Disk.joinWith, alone]

theorem newPath_clashFiles {p : Project.Parameters} (named : p.name = "demo") :
    clashFiles.map (fun file => newPath p file.1) = ["demo/x", "demo"] := by
  have free : Project.IsTokenFree (Disk.joinWith '/' ["demo".toList, ['x']]) :=
    Project.isTokenFree_of_not_mem (by decide)
  rw [clashFiles, List.map_cons, List.map_singleton, newPath_of_isTokenFree free, newPath_spelling, named]
  decide

/-- The file named for the project stands where the other one needs a directory, and no collision is found. -/
theorem materialize_clashDisk :
    ({} : Materializer).settings.allowCollisions = false ∧ Tree clashDisk ['/', 't'] [['t']] ∧
      ∃ manifest t, (materialize {} ['/', 't'] ⟨"demo", Project.noPort, by decide⟩).run { disk := clashDisk } =
        (.ok manifest, t) ∧ "demo" ∈ manifest.paths ∧ "demo/x" ∈ manifest.paths ∧ ¬manifest.IsTree := by
  let p : Project.Parameters := ⟨"demo", Project.noPort, by decide⟩
  have renamed := newPath_clashFiles (p := p) rfl
  have faultless : IsFaultless {} p clashFiles := by
    constructor
    · intro file known _
      have empty : ∀ file ∈ clashFiles, file.2 = [] := by decide
      exact ⟨[], (empty file known).symm, fun _ => ⟨_, Template.render_verbatim rfl _ _⟩⟩
    · right
      rw [renamed]
      decide
  refine ⟨rfl, tree_clashDisk, ?_⟩
  obtain ⟨manifest, t, ran⟩ := faultless.exists_manifest (w := { disk := clashDisk }) tree_clashDisk
    nodup_clashDisk lists_clashDisk
  have listed {path : String} (known : path ∈ ["demo/x", "demo"]) : path ∈ manifest.paths := by
    rw [mem_paths_iff tree_clashDisk nodup_clashDisk lists_clashDisk ran]
    rwa [← renamed, List.mem_map] at known
  have file : "demo" ∈ manifest.paths := listed (by simp)
  have directory : "demo/x" ∈ manifest.paths := listed (by simp)
  exact ⟨manifest, t, ran, file, directory, fun isTree => isTree _ file _ directory (by decide)⟩

end Materializer

end Stencil
