import Mathlib
import Stencil.Materialize
import Stencil.Proofs.Disk.Listing
import Stencil.Proofs.Disk.Trees
import Stencil.Proofs.Manifest
import Stencil.Proofs.Project.Renaming
import Stencil.Proofs.Template.Verbatim
import Stencil.Proofs.Text.Utf8
import Stencil.Proofs.Work

/-!
# Exact manifests

The files of a tree are taken in one after the other, ascending name by name.  Either every one of them is
made and the manifest has the last file of each path, or the first that is not made, or whose path is taken,
stops the work.
-/

namespace Stencil.Materializer

open Disk (Route Tree Lists below)

variable (m : Materializer) (p : Project.Parameters) (root : List Char)

/-- The path in the new project of what names lead to. -/
def newPath (names : Route) : String :=
  Project.renamePath p.name (String.ofList (Disk.joinWith '/' names))

/-- The class of what names lead to, by its new path. -/
def classOf (names : Route) : Classification :=
  (Classifier.ofSettings m.settings).classify (newPath p names)

/-- The file of the new project with a content made for what names lead to. -/
def fileWith (names : Route) (content : List Char) (encoding : Encoding) : ProjectFile :=
  ⟨newPath p names, String.ofList content, encoding, some (String.ofList (below root names))⟩

/-- The file that is made from a file of the template: bytes are stored as letters, the others are read as
text, and this is rendered or copied. -/
inductive Makes : Route × Bytes → ProjectFile → Prop
  /-- Bytes are stored. -/
  | stored {names : Route} {bytes : Bytes} (kind : m.classOf p names = .base64) :
    Makes (names, bytes) (fileWith p root names (Text.Base64.encode bytes) .base64)
  /-- Text is copied. -/
  | copied {names : Route} {bytes : Bytes} {text : List Char} (kind : m.classOf p names = .text)
    (written : Text.Utf8.encode text = bytes) : Makes (names, bytes) (fileWith p root names text .text)
  /-- Text is rendered. -/
  | rendered {names : Route} {bytes : Bytes} {text result : List Char}
    (kind : m.classOf p names = .template) (written : Text.Utf8.encode text = bytes)
    (renders : Template.render m.functions p text = .ok result) :
    Makes (names, bytes) (fileWith p root names result .text)

/-- Whether files may stand in one manifest. -/
def MayShare (made : List ProjectFile) : Prop :=
  m.settings.allowCollisions = true ∨ (made.map (·.path)).Nodup

/-- How a file stops the work when some files have been made before it. -/
inductive Stops (made : List ProjectFile) : Route × Bytes → MaterializeFault → Prop
  /-- Its bytes are no text. -/
  | undecodable {names : Route} {bytes : Bytes} {fault : Text.Utf8.Fault}
    (kind : m.classOf p names ≠ .base64) (refused : Text.Utf8.decode bytes = .error fault) :
    Stops made (names, bytes) (.read (below root names) (Materializer.undecodable fault))
  /-- Its text is not rendered. -/
  | unrendered {names : Route} {bytes : Bytes} {text : List Char} {fault : Template.RenderFault}
    (kind : m.classOf p names = .template) (written : Text.Utf8.encode text = bytes)
    (refused : Template.render m.functions p text = .error fault) :
    Stops made (names, bytes) (.template (newPath p names) fault)
  /-- It is made, but its path is taken. -/
  | collision {file : Route × Bytes} {makes earlier : ProjectFile} (isMade : Makes m p root file makes)
    (barred : m.settings.allowCollisions = false) (known : earlier ∈ made) (same : earlier.path = makes.path) :
    Stops made file
      (.manifest (.collision makes.path (ManifestBuilder.origin earlier) (ManifestBuilder.origin makes)))

variable {m p root}

theorem Makes.path {file : Route × Bytes} {makes : ProjectFile} (made : Makes m p root file makes) :
    makes.path = newPath p file.1 := by
  cases made <;> rfl

/-! ## One file -/

theorem ensures_renderFile {path : String} {text : List Char} {w : Workspace} :
    Ensures (m.renderFile p path text) w
      (fun result t => Template.render m.functions p text = .ok result ∧ t.disk = w.disk)
      fun fault t => ∃ refusal, Template.render m.functions p text = .error refusal ∧
        fault = .template path refusal ∧ t.disk = w.disk := by
  refine .bind (.modify ?_)
  split
  case h_1 result renders => exact .pure ⟨renders, rfl⟩
  case h_2 refusal refused =>
    have kept : Ensures (reportPage path refusal) { w with log := w.log ++ [⟨.debug, "Rendering " ++ path⟩] }
        (fun _ t => t.disk = w.disk) fun _ _ => False := by
      unfold reportPage
      split
      case h_1 =>
        split
        · exact .pure rfl
        · exact .modify rfl
      case h_2 => exact .pure rfl
    refine .bind (kept.mono (fun _ t same => ?_) nofun)
    exact .throw ⟨refusal, refused, rfl, same⟩

theorem ensures_makeFile {names : Route} {bytes : Bytes} {w : Workspace}
    (read : w.disk.read (below root names) = .ok bytes) (made : List ProjectFile) :
    Ensures (m.makeFile p (below root names) (newPath p names) (m.classOf p names)) w
      (fun file t => Makes m p root (names, bytes) file ∧ t.disk = w.disk)
      fun fault t => Stops m p root made (names, bytes) fault ∧ t.disk = w.disk := by
  refine .bind (.bind (.get (.pure ?_)))
  rw [read]
  simp only
  cases kind : m.classOf p names with
  | base64 => exact .pure ⟨.stored kind, rfl⟩
  | text =>
      cases decoded : Text.Utf8.decode bytes with
      | error fault => exact .throw ⟨.undecodable (by simp [kind]) decoded, rfl⟩
      | ok text => exact .pure ⟨.copied kind (Text.Utf8.decode_eq_ok_iff.mp decoded), rfl⟩
  | template =>
      cases decoded : Text.Utf8.decode bytes with
      | error fault => exact .throw ⟨.undecodable (by simp [kind]) decoded, rfl⟩
      | ok text =>
          have written := Text.Utf8.decode_eq_ok_iff.mp decoded
          refine .bind (ensures_renderFile.mono (fun result t done => ?_) fun fault t failed => ?_)
          · exact .pure ⟨.rendered kind written done.1, done.2⟩
          · obtain ⟨refusal, refused, rfl, same⟩ := failed
            exact ⟨.unrendered kind written refused, same⟩

/-! ## One step -/

/-- Progress is made when some files have been taken in. -/
structure Gathered (m : Materializer) (made : List ProjectFile) (progress : Progress) : Prop where
  /-- The builder has the files. -/
  entries : progress.builder.entries = ManifestBuilder.gather made
  /-- It treats collisions as the settings say. -/
  collisions : progress.builder.allowCollisions = m.settings.allowCollisions
  /-- It takes more. -/
  taking : progress.builder.closed = false
  /-- The files may stand together. -/
  share : m.MayShare made

theorem add_gathered {made : List ProjectFile} {progress : Progress} (gathered : Gathered m made progress)
    {file : Route × Bytes} {makes : ProjectFile} (isMade : Makes m p root file makes) :
    match progress.builder.add makes with
    | .ok (builder, _) => ∀ classes, Gathered m (made ++ [makes]) ⟨builder, classes⟩
    | .error fault => Stops m p root made file (.manifest fault) := by
  have taken {b : ManifestBuilder} (entries : b.entries = ManifestBuilder.put makes progress.builder.entries)
      (same : b.allowCollisions = progress.builder.allowCollisions ∧ b.closed = progress.builder.closed)
      (share : m.MayShare (made ++ [makes])) (classes : List Classification) :
      Gathered m (made ++ [makes]) ⟨b, classes⟩ := by
    refine ⟨?_, same.1.trans gathered.collisions, same.2.trans gathered.taking, share⟩
    rw [ManifestBuilder.gather_concat, ← gathered.entries]
    exact entries
  rw [ManifestBuilder.add, if_neg (by simp [gathered.taking])]
  cases found : progress.builder.get? makes.path with
  | none =>
      rw [ManifestBuilder.get?_eq_none_iff, gathered.entries, ManifestBuilder.mem_paths_gather_iff] at found
      refine taken rfl ⟨rfl, rfl⟩ (gathered.share.imp_right fun distinct => ?_)
      rw [List.map_append, List.map_singleton]
      exact List.nodup_append.mpr ⟨distinct, by simp, by grind⟩
  | some earlier =>
      obtain ⟨known, same⟩ := ManifestBuilder.mem_of_mem_gather
        (gathered.entries ▸ ManifestBuilder.mem_of_get? found)
      cases allowed : m.settings.allowCollisions with
      | true =>
          simp only [gathered.collisions, allowed, if_true]
          exact taken rfl ⟨gathered.collisions.trans allowed |>.symm, rfl⟩ (.inl allowed)
      | false =>
          simp only [gathered.collisions, allowed, Bool.false_eq_true, if_false]
          exact .collision isMade allowed known same

theorem ensures_takeIn_directory {progress : Progress} {names : Route} {w : Workspace}
    (directory : w.disk.isDirectoryAt (below root names) = .ok true) :
    Ensures (m.takeIn p root progress names) w (fun after t => after = progress ∧ t.disk = w.disk)
      fun _ _ => False := by
  refine .bind (.bind (.get (.pure ?_)))
  rw [directory]
  exact .pure ⟨rfl, rfl⟩

theorem ensures_takeIn_file {made : List ProjectFile} {progress : Progress}
    (gathered : Gathered m made progress) {names : Route} {bytes : Bytes} {w : Workspace}
    (plain : w.disk.isDirectoryAt (below root names) = .ok false)
    (read : w.disk.read (below root names) = .ok bytes) :
    Ensures (m.takeIn p root progress names) w
      (fun after t => (∃ makes, Makes m p root (names, bytes) makes ∧ Gathered m (made ++ [makes]) after) ∧
        t.disk = w.disk)
      fun fault t => Stops m p root made (names, bytes) fault ∧ t.disk = w.disk := by
  refine .bind (.bind (.get (.pure ?_)))
  rw [plain]
  refine .bind ((ensures_makeFile read made).mono (fun makes t done => ?_) fun _ _ failed => failed)
  obtain ⟨isMade, same⟩ := done
  have added := add_gathered gathered isMade
  split
  case h_1 fault refused =>
    rw [refused] at added
    exact .throw ⟨added, same⟩
  case h_2 builder log taken =>
    rw [taken] at added
    have reported : Ensures (log.forM fun entry => Work.report (ε := MaterializeFault) entry.level entry.message) t
        (fun _ t' => t'.disk = w.disk) fun _ _ => False :=
      .forM (fun entry known t' same' => .modify same') same
    exact .bind (reported.mono (fun _ t' same' => .pure ⟨⟨makes, isMade, added _⟩, same'⟩) nofun)

/-! ## All steps -/

section Steps

variable {d : Disk} {place : Route}

/-- One after the other, the files that names lead to are made, or the first that is not stops the work. -/
theorem ensures_foldlM_takeIn (tree : Tree d root place) {names : List Route}
    (inside : ∀ route ∈ names, route ≠ [] ∧ d.get? (place ++ route) ≠ none) {done : List ProjectFile}
    {progress : Progress} (gathered : Gathered m done progress) {w : Workspace} (same : w.disk = d) :
    Ensures (names.foldlM (m.takeIn p root) progress) w
      (fun after t => (∃ made, List.Forall₂ (Makes m p root) (names.filterMap (d.fileAt? place)) made ∧
        Gathered m (done ++ made) after) ∧ t.disk = d)
      fun fault t => (∃ before file later made,
        names.filterMap (d.fileAt? place) = before ++ file :: later ∧
          List.Forall₂ (Makes m p root) before made ∧ m.MayShare (done ++ made) ∧
          Stops m p root (done ++ made) file fault) ∧ t.disk = d := by
  induction names generalizing done progress w with
  | nil => exact .pure ⟨⟨[], .nil, by simpa using gathered⟩, same⟩
  | cons route rest induction =>
      obtain ⟨more, there⟩ := inside route List.mem_cons_self
      have insideRest : ∀ route ∈ rest, route ≠ [] ∧ d.get? (place ++ route) ≠ none :=
        fun other known => inside other (List.mem_cons_of_mem route known)
      obtain ⟨node, held⟩ := Option.ne_none_iff_exists'.mp there
      have kind := tree.isDirectoryAt_below more held
      rw [← same] at kind
      rw [List.foldlM_cons]
      cases node with
      | directory mode =>
          have none : d.fileAt? place route = none := by rw [Disk.fileAt?, held]
          rw [List.filterMap_cons_none none]
          refine .bind ((ensures_takeIn_directory kind).mono (fun after t passed => ?_) fun _ _ failed => failed.elim)
          obtain ⟨rfl, same'⟩ := passed
          exact induction insideRest gathered (same'.trans same)
      | link target => exact absurd held (tree.unlinked route target)
      | file bytes mode =>
          have some : d.fileAt? place route = some (route, bytes) := by rw [Disk.fileAt?, held]
          have read := tree.read_below more held
          rw [← same] at read
          rw [List.filterMap_cons_some some]
          refine .bind ((ensures_takeIn_file gathered kind read).mono (fun after t taken => ?_)
            fun fault t stopped => ?_)
          · obtain ⟨⟨makes, isMade, gathered'⟩, same'⟩ := taken
            refine (induction insideRest gathered' (same'.trans same)).mono (fun after' t' all => ?_)
              fun fault t' stopped => ?_
            · obtain ⟨⟨made, makesAll, gatheredAll⟩, same''⟩ := all
              rw [List.append_assoc] at gatheredAll
              exact ⟨⟨makes :: made, .cons isMade makesAll, gatheredAll⟩, same''⟩
            · obtain ⟨⟨before, file, later, made, split, makesBefore, share, stops⟩, same''⟩ := stopped
              rw [List.append_assoc] at share stops
              exact ⟨⟨(route, bytes) :: before, file, later, makes :: made, by rw [split]; rfl,
                .cons isMade makesBefore, share, stops⟩, same''⟩
          · refine ⟨⟨[], (route, bytes), rest.filterMap (d.fileAt? place), [], rfl, .nil, ?_⟩,
              stopped.2.trans same⟩
            rw [List.append_nil]
            exact ⟨gathered.share, stopped.1⟩

end Steps

/-- The manifest of a tree has the last of the files that are made for each path; otherwise the first file
that is not made, or whose path is taken, stops the work.  The disk stays as it is. -/
theorem ensures_materialize {w : Workspace} {place : Route} (tree : Tree w.disk root place)
    (distinct : (w.disk.places.map (·.1)).Nodup) {files : List (Route × Bytes)}
    (lists : Lists w.disk place files) :
    Ensures (m.materialize root p) w
      (fun manifest t => (∃ made, List.Forall₂ (Makes m p root) files made ∧ m.MayShare made ∧
        manifest = .ofEntries (ManifestBuilder.gather made)) ∧ t.disk = w.disk)
      fun fault t => (∃ before file later made, files = before ++ file :: later ∧
        List.Forall₂ (Makes m p root) before made ∧ m.MayShare made ∧ Stops m p root made file fault) ∧
        t.disk = w.disk := by
  obtain rfl := lists.unique (Disk.lists_namesBelow distinct tree.holdsDirectory)
  obtain ⟨mode, opened⟩ := tree.opened
  have under : namesUnder w.disk root = w.disk.namesBelow place := by rw [namesUnder, opened]
  have start : Gathered m [] ⟨{ allowCollisions := m.settings.allowCollisions }, []⟩ :=
    ⟨rfl, rfl, rfl, .inr .nil⟩
  refine .bind (.bind (.get (.pure ?_)))
  rw [under]
  refine .bind ((ensures_foldlM_takeIn tree (fun route known => Disk.mem_namesBelow.mp known) start rfl).mono
    (fun after t all => ?_) fun fault t stopped => ?_)
  · obtain ⟨⟨made, makesAll, gathered⟩, same⟩ := all
    refine .bind (.modify (.pure ⟨⟨made, makesAll, gathered.share, ?_⟩, same⟩))
    rw [ManifestBuilder.build, gathered.entries]
    rfl
  · exact stopped

/-! ## Exactness -/

variable (m p) in
/-- Whether a file can be made: unless it is stored, it is text, and this is rendered if it is a template. -/
def IsSound (file : Route × Bytes) : Prop :=
  m.classOf p file.1 ≠ .base64 →
    ∃ text, Text.Utf8.encode text = file.2 ∧
      (m.classOf p file.1 = .template → ∃ result, Template.render m.functions p text = .ok result)

variable (m p) in
/-- Whether nothing about the files of a tree stops the work. -/
structure IsFaultless (files : List (Route × Bytes)) : Prop where
  /-- Every file can be made. -/
  sound : ∀ file ∈ files, IsSound m p file
  /-- New paths are different unless collisions are allowed. -/
  apart : m.settings.allowCollisions = true ∨ (files.map fun file => newPath p file.1).Nodup

/-- A manifest has the last of some files for each path, and its paths ascend. -/
structure Collects (made : List ProjectFile) (manifest : Manifest) : Prop where
  /-- The paths ascend, so each of them comes once. -/
  ascending : manifest.entries.Pairwise (·.1 < ·.1)
  /-- The last file of each path is there, and nothing else. -/
  exact : ∀ path file,
    (path, file) ∈ manifest.entries ↔ (made.filter (·.path = path)).getLast? = some file

theorem Makes.isSound {file : Route × Bytes} {makes : ProjectFile} (made : Makes m p root file makes) :
    IsSound m p file := by
  cases made with
  | stored kind => exact fun other => absurd kind other
  | copied kind written => exact fun _ => ⟨_, written, fun template => by simp [kind] at template⟩
  | rendered kind written renders => exact fun _ => ⟨_, written, fun _ => ⟨_, renders⟩⟩

theorem paths_of_forall₂ {files : List (Route × Bytes)} {made : List ProjectFile}
    (makes : List.Forall₂ (Makes m p root) files made) :
    made.map (·.path) = files.map fun file => newPath p file.1 := by
  induction makes with
  | nil => rfl
  | cons first _ induction => rw [List.map_cons, List.map_cons, first.path, induction]

theorem isFaultless_of_forall₂ {files : List (Route × Bytes)} {made : List ProjectFile}
    (makes : List.Forall₂ (Makes m p root) files made) (share : m.MayShare made) :
    IsFaultless m p files := by
  constructor
  · clear share
    induction makes with
    | nil => nofun
    | cons first _ induction =>
        intro file known
        rcases List.mem_cons.mp known with rfl | later
        · exact first.isSound
        · exact induction file later
  · rwa [MayShare, paths_of_forall₂ makes] at share

/-- Where nothing is wrong with any file, no file stops the work. -/
theorem IsFaultless.not_stops {before later : List (Route × Bytes)} {file : Route × Bytes}
    {made : List ProjectFile} {fault : MaterializeFault} (faultless : IsFaultless m p (before ++ file :: later))
    (makes : List.Forall₂ (Makes m p root) before made) : ¬Stops m p root made file fault := by
  intro stops
  have sound := faultless.sound file (by simp)
  cases stops with
  | undecodable kind refused =>
      obtain ⟨text, written, -⟩ := sound kind
      rw [Text.Utf8.decode_eq_ok_iff.mpr written] at refused
      cases refused
  | unrendered kind written refused =>
      obtain ⟨text, same, renders⟩ := sound (by simp [kind])
      obtain rfl := Text.Utf8.encode_injective (same.trans written.symm)
      obtain ⟨result, renders⟩ := renders kind
      rw [renders] at refused
      cases refused
  | collision isMade barred known same =>
      have distinct := faultless.apart.resolve_left (by simp [barred])
      have taken : newPath p file.1 ∈ before.map fun file => newPath p file.1 := by
        rw [← paths_of_forall₂ makes, ← isMade.path, ← same]
        exact List.mem_map_of_mem known
      rw [List.map_append, List.nodup_append] at distinct
      exact distinct.2.2 _ taken _ (by simp) rfl

theorem newPath_of_isTokenFree {names : Route} (free : Project.IsTokenFree (Disk.joinWith '/' names)) :
    newPath p names = String.ofList (Disk.joinWith '/' names) := by
  rw [newPath, Project.renamePath_of_isTokenFree]
  rwa [String.toList_ofList]

/-! ## A tree -/

/-- A disk with a tree at `/t`, where an image comes before a text name by name but behind it as a path, and
with an empty directory at `/o`. -/
def sampleDisk : Disk where
  places :=
    [([['t']], .directory Disk.directoryMode), ([['t'], ['a']], .directory Disk.directoryMode),
      ([['t'], ['a'], ['x', '.', 'p', 'n', 'g']], .file [0xFF] Disk.fileMode),
      ([['t'], ['a', '.', 't', 'x', 't']], .file [0xC3, 0xA9] Disk.fileMode),
      ([['t'], ['m', '.', 'p', 'y']], .file [0x0D, 0x7B] Disk.fileMode),
      ([['o']], .directory Disk.directoryMode)]

/-- The files of the tree at `/t`. -/
def sampleFiles : List (Route × Bytes) :=
  [([['a'], ['x', '.', 'p', 'n', 'g']], [0xFF]), ([['a', '.', 't', 'x', 't']], [0xC3, 0xA9]),
    ([['m', '.', 'p', 'y']], [0x0D, 0x7B])]

theorem tree_sampleDisk : Tree sampleDisk ['/', 't'] [['t']] := by
  have walks : sampleDisk.Walks true Disk.mostLinks [] [['t']] ⟨[['t']], some (.directory Disk.directoryMode)⟩ :=
    .down ⟨_, rfl⟩ (by decide) (by decide) rfl nofun .arrived
  have opened : sampleDisk.locate true ['/', 't'] = .ok ⟨[['t']], some (.directory Disk.directoryMode)⟩ := walks.walk
  exact .of_forall_mem opened (by decide) (by decide)

theorem nodup_sampleDisk : (sampleDisk.places.map (·.1)).Nodup := by
  decide

theorem lists_sampleDisk : Lists sampleDisk [['t']] sampleFiles := by
  have listing : (sampleDisk.namesBelow [['t']]).filterMap (sampleDisk.fileAt? [['t']]) = sampleFiles := by
    decide
  rw [← listing]
  exact Disk.lists_namesBelow nodup_sampleDisk (by decide)

theorem isTokenFree_sampleFiles :
    ∀ file ∈ sampleFiles, Project.IsTokenFree (Disk.joinWith '/' file.1) := by
  have free : ∀ file ∈ sampleFiles, '\x7b' ∉ Disk.joinWith '/' file.1 := by decide
  exact fun file known => Project.isTokenFree_of_not_mem (free file known)

theorem classOf_sampleFiles {file : Route × Bytes} (known : file ∈ sampleFiles) :
    m.classOf p file.1 =
      (Classifier.ofSettings m.settings).classify (String.ofList (Disk.joinWith '/' file.1)) := by
  rw [classOf, newPath_of_isTokenFree (isTokenFree_sampleFiles file known)]

theorem isFaultless_sampleFiles : IsFaultless {} p sampleFiles := by
  constructor
  · intro file known other
    rw [classOf_sampleFiles known] at other
    simp only [sampleFiles, List.mem_cons, List.not_mem_nil, or_false] at known
    rcases known with rfl | rfl | rfl
    · exact absurd (by decide +kernel) other
    · exact ⟨['é'], by decide, fun _ => ⟨_, Template.render_verbatim rfl _ _⟩⟩
    · exact ⟨['\r', '\x7b'], by decide, fun _ => ⟨_, Template.render_verbatim rfl _ _⟩⟩
  · have renamed : sampleFiles.map (fun file => newPath p file.1) =
        sampleFiles.map fun file => String.ofList (Disk.joinWith '/' file.1) :=
      List.map_congr_left fun file known => newPath_of_isTokenFree (isTokenFree_sampleFiles file known)
    right
    rw [renamed]
    decide +kernel

theorem not_isFaultless_sampleFiles :
    ¬IsFaultless { settings := { base64Extensions := [] } } p sampleFiles := by
  intro faultless
  have known : ([['a'], ['x', '.', 'p', 'n', 'g']], [0xFF]) ∈ sampleFiles := List.mem_cons_self
  obtain ⟨text, written, -⟩ := faultless.sound _ known (by rw [classOf_sampleFiles known]; decide +kernel)
  have decoded := Text.Utf8.decode_eq_ok_iff.mpr written
  have refused : Text.Utf8.decode [0xFF] = .error ⟨.invalidStart, 0, 1, 0xFF⟩ := by
    rw [Text.Utf8.decode, Text.Utf8.decodeFrom]
    rfl
  rw [refused] at decoded
  cases decoded

/-! ## All or nothing -/

/-- Materialization is exact, and all or nothing.  If nothing is wrong with the files of a tree, the manifest
has for each new path the last file that is made for it; otherwise there is no manifest, and the fault is
that of the first file that stops the work. -/
theorem materialize_exact {w : Workspace} {place : Route} (tree : Tree w.disk root place)
    (distinct : (w.disk.places.map (·.1)).Nodup) {files : List (Route × Bytes)}
    (lists : Lists w.disk place files) :
    (IsFaultless m p files →
      ∃ made manifest t, (m.materialize root p).run w = (.ok manifest, t) ∧ t.disk = w.disk ∧
        List.Forall₂ (Makes m p root) files made ∧ Collects made manifest) ∧
    (¬IsFaultless m p files →
      ∃ before file later made fault t, (m.materialize root p).run w = (.error fault, t) ∧
        t.disk = w.disk ∧ files = before ++ file :: later ∧ List.Forall₂ (Makes m p root) before made ∧
        m.MayShare made ∧ Stops m p root made file fault) := by
  rcases (ensures_materialize tree distinct lists).outcome with
    ⟨manifest, t, ran, ⟨made, makes, share, rfl⟩, same⟩ |
    ⟨fault, t, ran, ⟨before, file, later, made, rfl, makes, share, stops⟩, same⟩
  · refine ⟨fun _ => ⟨made, _, t, ran, same, makes, ?_⟩, fun faulty => ?_⟩
    · refine ⟨Manifest.ofEntries_ascending _, fun path file => ?_⟩
      rw [Manifest.mem_ofEntries_iff (ManifestBuilder.nodup_gather made)]
      exact ManifestBuilder.mem_gather_iff
    · exact absurd (isFaultless_of_forall₂ makes share) faulty
  · refine ⟨fun faultless => ?_, fun _ => ?_⟩
    · exact absurd stops (faultless.not_stops makes)
    · exact ⟨before, file, later, made, fault, t, ran, same, rfl, makes, share, stops⟩

/-- By the settings that are given by default the tree at `/t` becomes a manifest; without extensions of
files that are stored, its image stops the work. -/
theorem materialize_exact_image :
    (∃ made manifest t,
      (materialize {} ['/', 't'] ⟨"demo", Project.noPort, by decide⟩).run { disk := sampleDisk } =
        (.ok manifest, t) ∧ Collects made manifest ∧
      List.Forall₂ (Makes {} ⟨"demo", Project.noPort, by decide⟩ ['/', 't']) sampleFiles made) ∧
    ∃ fault t, (materialize { settings := { base64Extensions := [] } } ['/', 't']
      ⟨"demo", Project.noPort, by decide⟩).run { disk := sampleDisk } = (.error fault, t) := by
  let w : Workspace := { disk := sampleDisk }
  have distinct : (w.disk.places.map (·.1)).Nodup := nodup_sampleDisk
  constructor
  · obtain ⟨made, manifest, t, ran, -, makes, collects⟩ :=
      (materialize_exact (w := w) tree_sampleDisk distinct lists_sampleDisk).1 isFaultless_sampleFiles
    exact ⟨made, manifest, t, ran, collects, makes⟩
  · obtain ⟨-, -, -, -, fault, t, ran, -⟩ :=
      (materialize_exact (w := w) tree_sampleDisk distinct lists_sampleDisk).2 not_isFaultless_sampleFiles
    exact ⟨fault, t, ran⟩

end Stencil.Materializer
