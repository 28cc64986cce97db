import Stencil.CommandLine.Run
import Stencil.Proofs.Disk.Writing
import Stencil.Proofs.Materialize.Exactness
import Stencil.Proofs.Text.Base64

/-!
# From the disk to the disk

A tree whose paths have no tokens, and whose templates open no actions, comes back as it is when its manifest
is written into an empty directory.
-/

namespace Stencil.Materializer

open CommandLine.Run (fileBytes writeManifest)
open Disk (Route Tree Lists FitTogether IsEmptyAt Filled)

variable {m : Materializer} {p : Project.Parameters} {root : List Char}

/-! ## Single files -/

/-- What is written for an entry of a manifest is a file of the template as it was. -/
structure BringsBack (entry : String × ProjectFile) (file : Route × Bytes) : Prop where
  /-- It has the same path. -/
  path : entry.1 = String.ofList (Disk.joinWith '/' file.1)
  /-- It has the same bytes. -/
  bytes : fileBytes entry.2 = file.2

theorem unopened_of_bytes {text : List Char} (free : ¬[0x7B, 0x7B] <:+: Text.Utf8.encode text) :
    Template.hasPair '\x7b' '\x7b' text = false := by
  rw [Template.hasPair_eq_false_iff]
  rintro ⟨front, rest, rfl⟩
  apply free
  rw [Text.Utf8.encode_append, Text.Utf8.encode_append]
  exact ⟨Text.Utf8.encode front, Text.Utf8.encode rest, rfl⟩

theorem Makes.bytes {file : Route × Bytes} {makes : ProjectFile} (made : Makes m p root file makes)
    (unopened : m.classOf p file.1 = .template → ¬[0x7B, 0x7B] <:+: file.2) : fileBytes makes = file.2 := by
  cases made with
  | stored kind =>
      rw [fileBytes, fileWith]
      simp only [String.toList_ofList]
      exact Text.Base64.decode_encode _
  | copied kind written =>
      rw [fileBytes, fileWith]
      simpa only [String.toList_ofList] using written
  | rendered kind written renders =>
      have free := unopened kind
      rw [← written] at free
      rw [Template.render_verbatim (unopened_of_bytes free)] at renders
      cases renders
      rw [fileBytes, fileWith]
      simpa only [String.toList_ofList] using written

/-! ## All files -/

theorem eq_of_path {names names' : Route} (areNames : ∀ name ∈ names, Disk.IsName name)
    (areNames' : ∀ name ∈ names', Disk.IsName name)
    (same : String.ofList (Disk.joinWith '/' names) = String.ofList (Disk.joinWith '/' names')) :
    names = names' := by
  have joined := congrArg String.toList same
  rw [String.toList_ofList, String.toList_ofList] at joined
  rw [← Disk.segments_joinWith areNames, joined, Disk.segments_joinWith areNames']

/-- Writing entries one after the other adds the files that they bring back to those that are done. -/
theorem ensures_writeEntries {start : Disk} {output : List Char} {place : Route} {files : List (Route × Bytes)}
    (empty : IsEmptyAt start output place) (together : FitTogether output files)
    {entries : List (String × ProjectFile)} (brings : ∀ entry ∈ entries, ∃ file ∈ files, BringsBack entry file)
    (distinct : (entries.map (·.1)).Nodup) {d : Disk} {done : List (Route × Bytes)}
    (filled : Filled start place files done d)
    (fresh : ∀ file ∈ done, String.ofList (Disk.joinWith '/' file.1) ∉ entries.map (·.1)) :
    Ensures (writeManifest output ⟨entries⟩) d
      (fun _ t => ∃ done', Filled start place files done' t ∧ ∀ file ∈ files,
        file ∈ done ∨ String.ofList (Disk.joinWith '/' file.1) ∈ entries.map (·.1) → file ∈ done')
      fun _ _ => False := by
  induction entries generalizing d done with
  | nil => exact .pure ⟨done, filled, fun file _ known => by simpa using known⟩
  | cons entry rest induction =>
      obtain ⟨path, makes⟩ := entry
      obtain ⟨file, inside, same, bytes⟩ := brings _ List.mem_cons_self
      simp only at same bytes
      obtain ⟨freshRest, distinctRest⟩ := List.nodup_cons.mp distinct
      have areNames := (together.fits file inside).areNames
      have target : Disk.join output path.toList = Disk.below output file.1 := by
        rw [same, String.toList_ofList, Disk.join_joinWith output areNames]
      have freshFile : file ∉ done := fun known => fresh file known (by simp [same])
      have written := filled.writeAt empty together inside freshFile
      rw [← target, ← bytes] at written
      refine .bind (written.mono (fun _ t filled' => ?_) nofun)
      refine (induction (fun entry known => brings entry (List.mem_cons_of_mem _ known)) distinctRest filled'
        ?_).mono (fun _ t' finished => ?_) nofun
      · intro other known
        rcases List.mem_cons.mp known with rfl | earlier
        · exact same ▸ freshRest
        · exact fun later => fresh other earlier (List.mem_cons_of_mem _ later)
      · obtain ⟨done', filledAll, all⟩ := finished
        refine ⟨done', filledAll, fun other known written => all other known ?_⟩
        rcases written with earlier | listed
        · exact .inl (List.mem_cons_of_mem file earlier)
        rcases List.mem_cons.mp listed with here | later
        · have names := eq_of_path (together.fits other known).areNames areNames (here.trans same)
          have self := together.apart other known file inside (names ▸ List.prefix_refl _)
          exact .inl (self ▸ List.mem_cons_self)
        · exact .inr later

/-- The files of a tree fit together below any directory where their paths are not too long. -/
theorem fitTogether_of_tree {d : Disk} {place : Route} (tree : Tree d root place)
    {files : List (Route × Bytes)} (lists : Lists d place files) {output : List Char}
    (short : ∀ file ∈ files, (Text.Utf8.encode (Disk.below output file.1)).length ≤ Disk.longestPath) :
    FitTogether output files := by
  have held {file : Route × Bytes} (known : file ∈ files) :
      ∃ mode, d.get? (place ++ file.1) = some (.file file.2 mode) := (lists.exact file.1 file.2).mp known
  constructor
  · intro file known
    obtain ⟨mode, there⟩ := held known
    exact ⟨(tree.fits file.1 (by simp [there])).named, short file known⟩
  · intro file known isPlace
    obtain ⟨mode, there⟩ := held known
    obtain ⟨mode', directory⟩ := tree.holdsDirectory
    rw [isPlace, List.append_nil, directory] at there
    cases there
  · intro file known other known' early
    obtain ⟨mode, there⟩ := held known
    obtain ⟨mode', there'⟩ := held known'
    by_cases same : file.1 = other.1
    · rw [same, there'] at there
      obtain ⟨bytes, -⟩ := Disk.Node.file.inj (Option.some.inj there)
      exact Prod.ext same bytes.symm
    · obtain ⟨mode'', directory⟩ := tree.wellFormed.holdsDirectory_of_prefix
        ((List.prefix_append_right_inj place).mpr early) (by simpa using same) (by simp [there'])
      rw [directory] at there
      cases there

theorem bringsBack_of_makes {file : Route × Bytes} {makes : ProjectFile} (made : Makes m p root file makes)
    (free : Project.IsTokenFree (Disk.joinWith '/' file.1))
    (unopened : m.classOf p file.1 = .template → ¬[0x7B, 0x7B] <:+: file.2) :
    BringsBack (makes.path, makes) file :=
  ⟨made.path.trans (newPath_of_isTokenFree free), made.bytes unopened⟩

theorem exists_makes {files : List (Route × Bytes)} {made : List ProjectFile}
    (makes : List.Forall₂ (Makes m p root) files made) {file : ProjectFile} (known : file ∈ made) :
    ∃ original ∈ files, Makes m p root original file := by
  induction makes with
  | nil => cases known
  | cons first _ induction =>
      rcases List.mem_cons.mp known with rfl | later
      · exact ⟨_, List.mem_cons_self, first⟩
      · obtain ⟨original, inside, made⟩ := induction later
        exact ⟨original, List.mem_cons_of_mem _ inside, made⟩

/-- A tree without tokens in its paths and without actions in its templates comes back as it is: once it has
become a manifest, and this has been written into an empty directory, the same files are there with the same
bytes, and no others. -/
theorem writeManifest_materialize {w t : Workspace} {place : Route} (tree : Tree w.disk root place)
    (distinct : (w.disk.places.map (·.1)).Nodup) {files : List (Route × Bytes)}
    (lists : Lists w.disk place files)
    (tokenFree : ∀ file ∈ files, Project.IsTokenFree (Disk.joinWith '/' file.1))
    (unopened : ∀ file ∈ files, m.classOf p file.1 = .template → ¬[0x7B, 0x7B] <:+: file.2)
    {manifest : Manifest} (ran : (m.materialize root p).run w = (.ok manifest, t)) {d : Disk}
    {output : List Char} {out : Route} (empty : IsEmptyAt d output out)
    (short : ∀ file ∈ files, (Text.Utf8.encode (Disk.below output file.1)).length ≤ Disk.longestPath) :
    ∃ d', (writeManifest output manifest).run d = (.ok (), d') ∧ Lists d' out files ∧
      ∀ route, ¬out <+: route → d'.get? route = d.get? route := by
  obtain ⟨made, makes, rfl⟩ : ∃ made, List.Forall₂ (Makes m p root) files made ∧
      manifest = .ofEntries (ManifestBuilder.gather made) := by
    have ensures := ensures_materialize (m := m) (p := p) tree distinct lists
    unfold Ensures at ensures
    rw [ran] at ensures
    obtain ⟨⟨made, makes, -, same⟩, -⟩ := ensures
    exact ⟨made, makes, same⟩
  have entries {entry : String × ProjectFile} :
      entry ∈ (Manifest.ofEntries (ManifestBuilder.gather made)).entries ↔
        entry ∈ ManifestBuilder.gather made :=
    Manifest.mem_ofEntries_iff (ManifestBuilder.nodup_gather made)
  have brings : ∀ entry ∈ (Manifest.ofEntries (ManifestBuilder.gather made)).entries,
      ∃ file ∈ files, BringsBack entry file := by
    rintro ⟨path, file⟩ known
    obtain ⟨gathered, rfl⟩ := ManifestBuilder.mem_of_mem_gather (entries.mp known)
    obtain ⟨original, inside, isMade⟩ := exists_makes makes gathered
    exact ⟨original, inside, bringsBack_of_makes isMade (tokenFree original inside) (unopened original inside)⟩
  have distinctPaths : ((Manifest.ofEntries (ManifestBuilder.gather made)).entries.map (·.1)).Nodup :=
    List.pairwise_map.mpr ((Manifest.ofEntries_ascending _).imp fun less => ne_of_lt less)
  have together := fitTogether_of_tree tree lists short
  rcases (ensures_writeEntries empty together brings distinctPaths (empty.filled files) nofun).outcome with
    ⟨⟨⟩, d', wrote, done, filled, all⟩ | ⟨-, -, -, impossible⟩
  · refine ⟨d', wrote, filled.lists empty (fun file inside => all file inside (.inr ?_)) lists.ascending,
      filled.grown.outside⟩
    have listed : newPath p file.1 ∈ made.map (·.path) := by
      rw [paths_of_forall₂ makes]
      exact List.mem_map_of_mem inside
    rw [newPath_of_isTokenFree (tokenFree file inside), ← ManifestBuilder.mem_paths_gather_iff] at listed
    obtain ⟨entry, known, same⟩ := List.mem_map.mp listed
    exact List.mem_map.mpr ⟨entry, entries.mpr known, same⟩
  · cases impossible

theorem isEmptyAt_sampleDisk : IsEmptyAt sampleDisk ['/', 'o'] [['o']] := by
  have walks : sampleDisk.Walks true Disk.mostLinks [] [['o']] ⟨[['o']], some (.directory Disk.directoryMode)⟩ :=
    .down ⟨_, rfl⟩ (by decide) (by decide) rfl nofun .arrived
  have opened : sampleDisk.locate true ['/', 'o'] = .ok ⟨[['o']], some (.directory Disk.directoryMode)⟩ := walks.walk
  refine ⟨tree_sampleDisk.wellFormed, ⟨_, opened⟩, fun names more => ?_⟩
  have elsewhere : ∀ entry ∈ sampleDisk.places, [['o']] <+: entry.1 → entry.1 = [['o']] := by decide
  by_contra held
  obtain ⟨entry, known, same⟩ := (Disk.get?_ne_none_iff (by simp)).mp held
  have only := elsewhere entry known (same ▸ List.prefix_append _ names)
  rw [same] at only
  exact more (List.append_cancel_left only)

/-- The tree at `/t`, which has an image, a text and a template with characters that mean something to a page,
comes back in the directory at `/o`. -/
theorem writeManifest_materialize_sample :
    ∃ manifest t d', (materialize {} ['/', 't'] ⟨"demo", Project.noPort, by decide⟩).run { disk := sampleDisk } =
        (.ok manifest, t) ∧
      (writeManifest ['/', 'o'] manifest).run sampleDisk = (.ok (), d') ∧ Lists d' [['o']] sampleFiles := by
  let w : Workspace := { disk := sampleDisk }
  let p : Project.Parameters := ⟨"demo", Project.noPort, by decide⟩
  have tree : Tree w.disk ['/', 't'] [['t']] := tree_sampleDisk
  have unopened : ∀ file ∈ sampleFiles, classOf {} p file.1 = .template → ¬[0x7B, 0x7B] <:+: file.2 := by
    have free : ∀ file ∈ sampleFiles, ¬[0x7B, 0x7B] <:+: file.2 := by decide
    exact fun file known _ => free file known
  rcases (ensures_materialize (m := {}) (p := p) tree nodup_sampleDisk lists_sampleDisk).outcome with
    ⟨manifest, t, ran, -⟩ | ⟨fault, t, ran, ⟨before, file, later, made, split, makes, -, stops⟩, -⟩
  · obtain ⟨d', wrote, lists, -⟩ := writeManifest_materialize tree nodup_sampleDisk lists_sampleDisk
      isTokenFree_sampleFiles unopened ran isEmptyAt_sampleDisk (by decide)
    exact ⟨manifest, t, d', ran, wrote, lists⟩
  · have faultless : IsFaultless {} p (before ++ file :: later) := split ▸ isFaultless_sampleFiles
    exact absurd stops (faultless.not_stops makes)

end Stencil.Materializer
