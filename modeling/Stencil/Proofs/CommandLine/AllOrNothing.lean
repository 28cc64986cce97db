import Mathlib
import Stencil.Proofs.Archive.Answers
import Stencil.Proofs.CommandLine.Rendering
import Stencil.Proofs.Configuration.Overrides
import Stencil.Proofs.Disk.Obstacles
import Stencil.Proofs.Materialize.Exactness

/-!
# All or nothing

A rendering delivers all files of its manifest below the directory, or says what is wrong and changes nothing, exactly
if the manifest is made or its making stops at a failure that is said, and the files land: nothing that is there is in
the way of one of them, and none of them is in the way of another one.
-/

namespace Stencil.CommandLine

open Disk (Route Node LaidAll OnWay lay layAll)

/-- The files of a manifest with their paths below a directory, in order. -/
def targets (directory : List Char) (manifest : Manifest) : List (List Char × Bytes) :=
  manifest.entries.map fun entry => (Disk.join directory entry.1.toList, Run.fileBytes entry.2)

theorem writeManifest_eq (directory : List Char) (manifest : Manifest) :
    Run.writeManifest directory manifest = layAll (targets directory manifest) := by
  rw [Run.writeManifest, layAll, targets]
  induction manifest.entries with
  | nil => rfl
  | cons entry rest induction => exact congrArg (fun next => lay _ _ >>= fun _ => next) induction

/-- Whether a path leads to a place below that of a directory. -/
def IsBelow (d : Disk) (directory path : List Char) : Prop :=
  d.resolve directory <+: d.resolve path ∧ d.resolve directory ≠ d.resolve path

/-- Outside of the place where archives are unpacked, files have been written below a directory, and nothing else has
changed. -/
structure Delivers (base : Route) (before : Disk) (directory : List Char) (files : List (List Char × Bytes))
    (after : Disk) : Prop where
  /-- Each file is there with its bytes. -/
  there : ∀ file ∈ files, after.read file.1 = .ok file.2
  /-- Its place is below that of the directory. -/
  below : ∀ file ∈ files, IsBelow before directory file.1
  /-- What has changed is a file, or a new directory on the way to one. -/
  only : ∀ place, ¬base <+: place → after.get? place = before.get? place ∨
    (∃ file ∈ files, before.resolve file.1 = place) ∨
      before.get? place = none ∧ after.HoldsDirectory place ∧
        ∃ file ∈ files, OnWay before (Disk.parent file.1) place

/-- Whether files can be laid down below a directory. -/
structure Lands (d : Disk) (directory : List Char) (files : List (List Char × Bytes)) : Prop where
  /-- Nothing is in the way of a file when its turn comes. -/
  goes : ∃ t, (layAll files).run d = (.ok (), t)
  /-- The places of the files are below that of the directory. -/
  below : ∀ file ∈ files, IsBelow d directory file.1
  /-- Files of one place are the same. -/
  agree : ∀ file ∈ files, ∀ other ∈ files, d.resolve file.1 = d.resolve other.1 → file.2 = other.2

/-- The names that lead to the files of a manifest, with their bytes. -/
def routes (manifest : Manifest) : List (Route × Bytes) :=
  manifest.entries.map fun entry => (Disk.segments entry.1.toList, Run.fileBytes entry.2)

/-- A directory below a root without links, whether it is there or not, and a manifest whose paths fit below it. -/
structure Suits (d : Disk) (root : List Char) (place lead : Route) (directory : List Char) (manifest : Manifest) :
    Prop where
  /-- No links stand below the root. -/
  plain : Disk.IsPlain d root place
  /-- Names lead from the root to the directory. -/
  leads : directory = Disk.below root lead
  /-- They can be names of something. -/
  areNames : ∀ name ∈ lead, Disk.IsName name
  /-- The paths of the manifest are relative. -/
  relative : ∀ entry ∈ manifest.entries, Disk.isAbsolute entry.1.toList = false
  /-- They lead somewhere. -/
  inside : ∀ file ∈ routes manifest, file.1 ≠ []
  /-- They are neither too long nor lead upwards. -/
  fits : ∀ file ∈ routes manifest, Disk.Fits root (lead ++ file.1)

/-- Where the paths of a manifest are relative, its files stand below the directory. -/
theorem targets_eq_filesBelow {directory : List Char} {manifest : Manifest}
    (relative : ∀ entry ∈ manifest.entries, Disk.isAbsolute entry.1.toList = false) :
    targets directory manifest = Disk.filesBelow directory (routes manifest) := by
  rw [targets, Disk.filesBelow, routes, List.map_map]
  refine List.map_congr_left fun entry known => ?_
  rw [Function.comp, Disk.join, relative entry known, if_neg Bool.false_ne_true]

/-- Below a root without links, files land exactly if nothing that is there is in the way of one of them, and none of
them is in the way of another one. -/
theorem Suits.lands_iff {d : Disk} {root : List Char} {place lead : Route} {directory : List Char} {manifest : Manifest}
    (suits : Suits d root place lead directory manifest) (here : d.HoldsDirectory d.here) :
    Lands d directory (targets directory manifest) ↔
      (∀ file ∈ routes manifest, Disk.IsClear d place (lead ++ file.1)) ∧
        ∀ file ∈ routes manifest, ∀ other ∈ routes manifest, file.1 <+: other.1 → file = other := by
  obtain ⟨plain, rfl, areNames, relative, inside, fits⟩ := suits
  rw [targets_eq_filesBelow relative]
  generalize routes manifest = files at *
  have fits' : ∀ file ∈ files.map fun file => (lead ++ file.1, file.2), Disk.Fits root file.1 :=
    List.forall_mem_map.mpr fits
  have inside' : ∀ file ∈ files.map fun file => (lead ++ file.1, file.2), file.1 ≠ [] :=
    List.forall_mem_map.mpr fun file known => by simp [inside file known]
  have goes := Disk.exists_layAll_iff plain here fits' inside'
  rw [← Disk.filesBelow_below root areNames] at goes
  have resolved {file : Route × Bytes} (known : file ∈ files) :
      d.resolve (Disk.below (Disk.below root lead) file.1) = place ++ (lead ++ file.1) := by
    rw [Disk.below_below root areNames, plain.resolve (fits file known)]
  have same {file other : Route × Bytes} (known : file ∈ files) (known' : other ∈ files) :
      d.resolve (Disk.below (Disk.below root lead) file.1) = d.resolve (Disk.below (Disk.below root lead) other.1) ↔
        file.1 = other.1 := by
    rw [resolved known, resolved known', List.append_right_inj, List.append_right_inj]
  constructor
  · intro lands
    obtain ⟨clear, apart⟩ := goes.mp lands.goes
    refine ⟨fun file known => clear _ (List.mem_map_of_mem known), fun file known other known' early => ?_⟩
    have names : file.1 = other.1 := by
      have whole := apart _ (List.mem_map_of_mem known) _ (List.mem_map_of_mem known')
        ((List.prefix_append_right_inj lead).mpr early)
      exact List.append_cancel_left whole
    exact Prod.ext names (lands.agree _ (List.mem_map_of_mem known) _ (List.mem_map_of_mem known')
      ((same known known').mpr names))
  · rintro ⟨clear, apart⟩
    refine ⟨goes.mpr ⟨List.forall_mem_map.mpr clear, ?_⟩, ?_, ?_⟩
    · refine List.forall_mem_map.mpr fun file known => List.forall_mem_map.mpr fun other known' early => ?_
      rw [apart file known other known' ((List.prefix_append_right_inj lead).mp early)]
    · refine List.forall_mem_map.mpr fun file known => ?_
      have way : Disk.Fits root lead := (fits file known).of_isPrefix (List.prefix_append lead file.1)
      rw [IsBelow, resolved known, plain.resolve way, ← List.append_assoc]
      exact ⟨List.prefix_append _ _, fun whole => inside file known (List.append_right_eq_self.mp whole.symm)⟩
    · refine List.forall_mem_map.mpr fun file known => List.forall_mem_map.mpr fun other known' whole => ?_
      rw [apart file known other known' ((same known known').mp whole ▸ List.prefix_refl _)]

theorem read_of_locate {d : Disk} {path : List Char} {route : Route} {content : Bytes} {mode : Nat}
    (located : d.locate true path = .ok ⟨route, some (.file content mode)⟩) : d.read path = .ok content := by
  rw [Disk.read, located]

section Delivering

variable {base : Route} {before d t : Disk} (directory : List Char) {files : List (List Char × Bytes)}

theorem isBelow_congr (grown : Disk.Grown base before d) {path : List Char} :
    IsBelow d directory path ↔ IsBelow before directory path := by
  rw [IsBelow, IsBelow, grown.resolve, grown.resolve]

/-- Files that have all been laid down are delivered exactly if their places are below the directory, and none of them
has taken the place of another one that is different. -/
theorem delivers_iff (grown : Disk.Grown base before d) (laid : LaidAll d files files t) :
    Delivers base before directory files t ↔ (∀ file ∈ files, IsBelow d directory file.1) ∧
      ∀ file ∈ files, ∀ other ∈ files, d.resolve file.1 = d.resolve other.1 → file.2 = other.2 := by
  constructor
  · intro delivers
    refine ⟨fun file known => (isBelow_congr directory grown).mpr (delivers.below file known),
      fun file known other known' same => ?_⟩
    obtain ⟨first, -, -, mode, located⟩ := laid.there file known
    obtain ⟨second, -, -, mode', located'⟩ := laid.there other known'
    have held : t.get? (d.resolve file.1) = some (.file first.2 mode) := Disk.get?_of_locate located
    have held' : t.get? (d.resolve other.1) = some (.file second.2 mode') := Disk.get?_of_locate located'
    rw [same, held', Option.some.injEq, Disk.Node.file.injEq] at held
    have reads := (delivers.there file known).symm.trans (read_of_locate located)
    have reads' := (delivers.there other known').symm.trans (read_of_locate located')
    rw [Except.ok.injEq] at reads reads'
    rw [reads, reads', held.1]
  · rintro ⟨below, agree⟩
    refine ⟨fun file known => ?_, fun file known => (isBelow_congr directory grown).mp (below file known),
      fun place away => ?_⟩
    · obtain ⟨other, known', same, mode, located⟩ := laid.there file known
      rw [read_of_locate located, agree other known' file known same]
    · by_cases taken : ∃ file ∈ files, d.resolve file.1 = place
      · obtain ⟨file, known, same⟩ := taken
        exact .inr (.inl ⟨file, known, by rw [← grown.resolve, same]⟩)
      · rw [← grown.outside place away]
        rcases laid.only place fun file known same => taken ⟨file, known, same.symm⟩ with
          kept | ⟨absent, holds, file, known, onWay⟩
        · exact .inl kept
        · exact .inr (.inr ⟨absent, holds, file, known, grown.onWay onWay⟩)

end Delivering

/-- Whether a rendering into a directory, for which a manifest was made or could not be made, does all or nothing: no
failure ends it as it is, and it delivers the files of the manifest, or says what is wrong and changes nothing. -/
def IsAllOrNothing {σ : Type} (base : Route) (start : RunState σ) (directory : List Char)
    (made : Except RenderFault Manifest) (outcome : Outcome σ) : Prop :=
  outcome.fault = none ∧
    ((∃ manifest, made = .ok manifest ∧ outcome.code = 0 ∧
        Delivers base start.workspace.disk directory (targets directory manifest) outcome.state.workspace.disk) ∨
      ∃ fault, made = .error fault ∧ outcome.code = 1 ∧
        outcome.state.lines = start.lines ++ errorLines fault.message ∧
        ∀ place, ¬base <+: place → outcome.state.workspace.disk.get? place = start.workspace.disk.get? place)

section Rendering

variable {σ : Type} {around : Surroundings σ} {arguments : List String}

/-- What a command leaves that keeps no records in a file. -/
theorem ofArguments_of_run {command : Command} {start after : RunState σ} {outcome : Except Stop Unit}
    (reads : Command.read start.workspace.disk arguments = .ok command)
    (ran : (Run.ofCommand around command).run start = (outcome, after)) (unfiled : after.journal.file = none) :
    Outcome.ofArguments around arguments start =
      match outcome with
      | .ok () => { code := 0, state := after }
      | .error (.exit code) => { code, state := after }
      | .error (.fault fault) => { code := 1, fault := some fault, state := after } := by
  rw [Outcome.ofArguments, reads]
  simp only [ran, writeRecords_eq_self around unfiled]
  rcases outcome with (code | fault) | ⟨⟩ <;> rfl

variable {archive name output : String} {port : Int} {shared : Shared} {start : RunState σ}
  {loaded : Configuration.Loaded} {w t : Workspace}
  (reads : Command.read start.workspace.disk arguments = .ok (.render archive name port (some output) shared))
  (unfiled : start.journal.file = none)
  (loads : (Configuration.load around.environment shared.config).run start.workspace = (.ok loaded, w))

include reads unfiled loads

/-- A rendering whose manifest cannot be made says why, unless the failure ends it as it is. -/
theorem outcome_of_error {fault : RenderFault}
    (failed : (prepare around.directory loaded.settings.template archive name port).run w = (.error fault, t)) :
    (Outcome.ofArguments around arguments start).code = 1 ∧
      (Outcome.ofArguments around arguments start).fault = fault.stray? ∧
      (Outcome.ofArguments around arguments start).state.workspace = t ∧
      (Outcome.ofArguments around arguments start).state.lines =
        start.lines ++ if fault.stray? = none then errorLines fault.message else [] := by
  have ran := run_render around archive name output port loads
  simp only [failed, giveUp] at ran
  cases stray : fault.stray? with
  | none =>
      simp only [stray] at ran
      rw [ofArguments_of_run reads ran (start.journal.file_setVerbosity shared.verbose ▸ unfiled)]
      exact ⟨rfl, rfl, rfl, rfl⟩
  | some fault' =>
      simp only [stray] at ran
      rw [ofArguments_of_run reads ran (start.journal.file_setVerbosity shared.verbose ▸ unfiled)]
      exact ⟨rfl, rfl, rfl, (List.append_nil _).symm⟩

/-- A rendering whose files are all laid down succeeds. -/
theorem outcome_of_ok {manifest : Manifest} {d : Disk}
    (succeeded : (prepare around.directory loaded.settings.template archive name port).run w = (.ok manifest, t))
    (wrote : (layAll (targets (Disk.tidy output.toList) manifest)).run t.disk = (.ok (), d)) :
    (Outcome.ofArguments around arguments start).code = 0 ∧
      (Outcome.ofArguments around arguments start).fault = none ∧
      (Outcome.ofArguments around arguments start).state.workspace.disk = d := by
  have ran := run_render around archive name output port loads
  rw [← writeManifest_eq] at wrote
  obtain ⟨after, concluded, disk, journal⟩ := run_conclude_of_ok
    { start with journal := start.journal.setVerbosity shared.verbose, workspace := t } wrote
  simp only [succeeded, concluded] at ran
  rw [ofArguments_of_run reads ran (by rw [journal, Log.Journal.file_setVerbosity]; exact unfiled)]
  exact ⟨rfl, rfl, disk⟩

/-- A rendering that is stopped at a file ends as it is. -/
theorem outcome_of_stopped {manifest : Manifest} {d : Disk} {fault : Disk.Fault}
    (succeeded : (prepare around.directory loaded.settings.template archive name port).run w = (.ok manifest, t))
    (stopped : (layAll (targets (Disk.tidy output.toList) manifest)).run t.disk = (.error fault, d)) :
    (Outcome.ofArguments around arguments start).code = 1 ∧
      (Outcome.ofArguments around arguments start).fault = some (.disk fault) ∧
      (Outcome.ofArguments around arguments start).state.workspace.disk = d ∧
      (Outcome.ofArguments around arguments start).state.lines = start.lines := by
  have ran := run_render around archive name output port loads
  rw [← writeManifest_eq] at stopped
  simp only [succeeded, run_conclude_of_error
    { start with journal := start.journal.setVerbosity shared.verbose, workspace := t } stopped] at ran
  rw [ofArguments_of_run reads ran (start.journal.file_setVerbosity shared.verbose ▸ unfiled)]
  exact ⟨rfl, rfl, rfl, rfl⟩

end Rendering

theorem disk_of_load {e : Environment} {given : Option String} {before after : Workspace}
    {loaded : Except Configuration.Fault Configuration.Loaded}
    (loads : (Configuration.load e given).run before = (loaded, after)) : after.disk = before.disk := by
  rw [Configuration.run_load] at loads
  split at loads
  · cases loads
    rfl
  · cases loads
    rfl
  · split at loads
    · cases loads
      rfl
    · cases loads
      rfl

/-- Files of a manifest are laid down one after the other, up to one that is stopped. -/
theorem ensures_layAll_targets {d : Disk} (wellFormed : d.WellFormed) (here : d.HoldsDirectory d.here)
    (files : List (List Char × Bytes)) :
    Ensures (layAll files) d (fun _ t => LaidAll d files files t)
      fun _ t => ∃ before file later, files = before ++ file :: later ∧ LaidAll d (before ++ [file]) before t := by
  have opens : ∀ file ∈ files, d.HoldsDirectory (Disk.startOf d.here file.1) := fun file _ => here.startOf file.1
  exact (Disk.ensures_layAll wellFormed.laidAll opens).mono (fun _ _ laid => laid) fun _ _ stopped => stopped

namespace Arguments

/-- An operand among the options. -/
theorem read_operand {known : List Switch} {argument : String} {rest : List String} {a : Arguments}
    (plain : holdsSwitches argument = false) (other : argument ≠ "--") (others : read known true rest = .ok a) :
    read known true (argument :: rest) = .ok (a.withOperand argument) := by
  rw [read, if_neg other, plain, if_neg Bool.false_ne_true, if_pos rfl, others]
  rfl

/-- An option whose value is the next argument. -/
theorem read_value {known : List Switch} {mixed : Bool} {argument value name written : String} {rest : List String}
    {a : Arguments} (option : holdsSwitches argument = true) (other : argument ≠ "--")
    (takes : readSwitch known argument.toList = .ok (.next [] name written)) (others : read known mixed rest = .ok a) :
    read known mixed (argument :: value :: rest) = .ok (a.withSwitch name value) := by
  rw [read, if_neg other, option, if_pos rfl, takes]
  simp only [bind, Except.bind, others]
  rfl

end Arguments

/-! ## Two files -/

/-- A disk with a directory to unpack into, an archive, and a directory `out` with another one in it, and what has been
unpacked. -/
def pairDisk (data : Bytes) (unpacked : List (Route × Node)) : Disk where
  places := [(["to".toList], .directory 0o700), (["t.tar.gz".toList], .file data Disk.fileMode),
    (["out".toList], .directory Disk.directoryMode), (["out".toList, "b".toList], .directory Disk.directoryMode)] ++
      unpacked

/-- What is unpacked with the first file. -/
def firstUnpacked : List (Route × Node) :=
  [(["to".toList, "t".toList], .directory Disk.directoryMode), (["to".toList, "t".toList, "a".toList], .file [] 0o600)]

/-- What is unpacked with both files. -/
def bothUnpacked : List (Route × Node) :=
  firstUnpacked ++ [(["to".toList, "t".toList, "b".toList], .file [] 0o600)]

/-- The directory with both files. -/
abbrev pairPlace : Route :=
  ["to".toList, "t".toList]

section Unpacking

open Archive

/-- An archive of two empty files. -/
def pairArchive : Bytes :=
  emptyFile 0x61 ++
    (headerBlock [0x74, 0x2F, 0x62] [0x30, 0x30, 0x31, 0x30, 0x36, 0x35] 0x30 ++ List.replicate 1024 0)

/-- The second member. -/
def secondMember : Member where
  name := "t/b".toList
  mode := 0
  kind := .file

theorem length_pairArchive : pairArchive.length < 65536 := by
  rw [pairArchive, List.length_append, List.length_append, List.length_replicate, length_emptyFile,
    length_headerBlock (by decide) rfl]
  decide

set_option maxRecDepth 10000 in
theorem isPayload_pairArchive : IsPayload pairArchive [firstMember, secondMember] 0 := by
  have second : Header.ofBlock (headerBlock [0x74, 0x2F, 0x62] [0x30, 0x30, 0x31, 0x30, 0x36, 0x35] 0x30) =
      .ok { name := "t/b".toList, mode := 0, size := 0, kind := .file } := by cbv
  refine ⟨{}, List.replicate 1024 0, ?_, .mark (by decide)⟩
  refine .member (announce_emptyFile_append _ _) (inFull_firstFile _) ?_
  exact .member (announce_append second (.inl rfl) rfl _ _) (inFull_ofHeader rfl _) .none

theorem exists_unpack_pair (data : Bytes) {w : Workspace} (disk : w.disk = pairDisk data []) :
    ∃ t, (unpack (store pairArchive) "/to".toList).run w = (.ok "/to/t".toList, t) ∧
      t.disk = pairDisk data bothUnpacked := by
  have first : Ensures (writeMember firstMember (Disk.below "/to".toList (Disk.segments firstMember.name)))
      (pairDisk data []) (fun _ d => d = pairDisk data firstUnpacked) fun _ _ => False := by
    unfold Ensures
    cbv
  have second : Ensures (writeMember secondMember (Disk.below "/to".toList (Disk.segments secondMember.name)))
      (pairDisk data firstUnpacked) (fun _ d => d = pairDisk data bothUnpacked) fun _ _ => False := by
    unfold Ensures
    cbv
  have made : Ensures ([firstMember, secondMember].foldlM (unpackMember "/to".toList) {}) w
      (fun _ t => t.disk = pairDisk data bothUnpacked) fun e _ => ∃ fault, False ∧ e = .disk fault := by
    rw [← disk] at first
    refine .bind ((ensures_unpackMember_accepted _ _ (by decide) (by rw [disk]; cbv) (by simp [firstMember])
      (fun _ => ⟨rfl, first⟩) (by simp [firstMember])).mono (fun p t disk => ?_) fun _ _ failed => failed)
    rw [← disk] at second
    refine .bind ((ensures_unpackMember_accepted _ _ (by decide) (by rw [disk]; cbv) (by simp [secondMember])
      (fun _ => ⟨rfl, second⟩) (by simp [secondMember])).mono (fun p t disk => ?_) fun _ _ failed => failed)
    exact .pure disk
  rw [unpack_store length_pairArchive]
  have answer : answerOf [firstMember, secondMember] 0 = .root (some "t".toList) := rfl
  refine exists_run_unpackListing (· = pairDisk data bothUnpacked) isPayload_pairArchive answer ?_
  refine made.mono (fun _ _ held => held) fun _ _ failed => ?_
  obtain ⟨_, failed, -⟩ := failed
  exact failed

end Unpacking

section Materializing

open Disk Materializer

variable (data : Bytes) (p : Project.Parameters)

/-- The files of the archive. -/
def pairFiles : List (Route × Bytes) :=
  [(["a".toList], []), (["b".toList], [])]

theorem tree_pairDisk : Tree (pairDisk data bothUnpacked) "/to/t".toList pairPlace := by
  have walks : (pairDisk data bothUnpacked).Walks true Disk.mostLinks [] pairPlace
      ⟨pairPlace, some (.directory Disk.directoryMode)⟩ :=
    .down ⟨_, rfl⟩ (by decide) (by decide) rfl nofun
      (.down ⟨_, rfl⟩ (by decide) (by decide) rfl nofun .arrived)
  have opened : (pairDisk data bothUnpacked).locate true "/to/t".toList =
      .ok ⟨pairPlace, some (.directory Disk.directoryMode)⟩ := walks.walk
  exact .of_forall_mem opened (by decide) (of_decide_eq_true rfl)

theorem nodup_pairDisk : ((pairDisk data bothUnpacked).places.map (·.1)).Nodup :=
  of_decide_eq_true rfl

theorem lists_pairDisk : Lists (pairDisk data bothUnpacked) pairPlace pairFiles := by
  have listing : ((pairDisk data bothUnpacked).namesBelow pairPlace).filterMap
      ((pairDisk data bothUnpacked).fileAt? pairPlace) = pairFiles := by
    cbv
  rw [← listing]
  exact Disk.lists_namesBelow (nodup_pairDisk data) ⟨_, rfl⟩

theorem newPath_pairFiles : ∀ file ∈ pairFiles, newPath p file.1 = String.ofList (Disk.joinWith '/' file.1) := by
  have free : ∀ file ∈ pairFiles, '\x7b' ∉ Disk.joinWith '/' file.1 := by decide
  exact fun file known => newPath_of_isTokenFree (Project.isTokenFree_of_not_mem (free file known))

theorem classOf_pairFiles : ∀ file ∈ pairFiles, classOf {} p file.1 = .text := by
  have texts : ∀ file ∈ pairFiles,
      (Classifier.ofSettings {}).classify (String.ofList (Disk.joinWith '/' file.1)) = .text := by decide +kernel
  intro file known
  rw [classOf, newPath_pairFiles p file known]
  exact texts file known

theorem isFaultless_pairFiles : IsFaultless {} p pairFiles := by
  constructor
  · intro file known _
    have empty : ∀ file ∈ pairFiles, file.2 = [] := by decide
    exact ⟨[], (empty file known).symm, fun template => by simp [classOf_pairFiles p file known] at template⟩
  · right
    rw [List.map_congr_left (newPath_pairFiles p)]
    decide +kernel

/-- An empty file of text is copied. -/
theorem eq_fileWith_of_makes {m : Materializer} {p : Project.Parameters} {root : List Char} {names : Route}
    {file : ProjectFile} (makes : Makes m p root (names, []) file) (kind : m.classOf p names = .text) :
    file = fileWith p root names [] .text := by
  cases makes with
  | stored other => simp [kind] at other
  | rendered other => simp [kind] at other
  | @copied _ _ text _ written =>
      obtain rfl : text = [] := Text.Utf8.encode_injective written
      rfl

/-- The manifest of the archive. -/
def pairManifest : Manifest :=
  ⟨["a", "b"].map fun path => (path, { path, content := "", source := some ("/to/t/" ++ path) })⟩

theorem isAbsolute_pairManifest : ∀ entry ∈ pairManifest.entries, Disk.isAbsolute entry.1.toList = false := by
  decide

theorem routes_pairManifest : routes pairManifest = pairFiles := rfl

theorem exists_materialize_pair {w : Workspace} (disk : w.disk = pairDisk data bothUnpacked) :
    ∃ t, (materialize {} "/to/t".toList p).run w = (.ok pairManifest, t) ∧ t.disk = w.disk := by
  have tree : Tree w.disk "/to/t".toList pairPlace := disk ▸ tree_pairDisk data
  have distinct : (w.disk.places.map (·.1)).Nodup := disk ▸ nodup_pairDisk data
  have lists : Lists w.disk pairPlace pairFiles := disk ▸ lists_pairDisk data
  rcases (ensures_materialize (m := {}) (p := p) tree distinct lists).outcome with
    ⟨manifest, t, ran, ⟨made, makes, -, rfl⟩, same⟩ |
    ⟨fault, t, ran, ⟨before, file, later, made, split, makes, -, stops⟩, -⟩
  · refine ⟨t, ran.trans ?_, same⟩
    obtain ⟨textA, texts⟩ := List.forall_mem_cons.mp (classOf_pairFiles p)
    obtain ⟨textB, -⟩ := List.forall_mem_cons.mp texts
    obtain ⟨pathA, paths⟩ := List.forall_mem_cons.mp (newPath_pairFiles p)
    obtain ⟨pathB, -⟩ := List.forall_mem_cons.mp paths
    obtain ⟨a, _, first, rest, rfl⟩ := List.forall₂_cons_left_iff.mp makes
    obtain ⟨b, _, second, none, rfl⟩ := List.forall₂_cons_left_iff.mp rest
    obtain rfl := List.forall₂_nil_left_iff.mp none
    rw [eq_fileWith_of_makes first textA, eq_fileWith_of_makes second textB, fileWith, fileWith, pathA, pathB]
    rfl
  · have faultless : IsFaultless {} p (before ++ file :: later) := split ▸ isFaultless_pairFiles p
    exact absurd stops (faultless.not_stops makes)

end Materializing

section Pair

/-- The arguments that render the archive into a directory. -/
def pairArguments (output : String) : List String :=
  ["render", "t.tar.gz", "-n", "demo", "-o", output]

/-- What renderings of the archive run in. -/
def pairSurroundings : Surroundings Unit where
  environment := {}
  transport _ _ := (.error (.unreachable ""), ())
  directory := "/to".toList
  places := Log.JournalPlaces.below []
  time := ""

/-- Where they start. -/
def pairStart (data : Bytes) : RunState Unit where
  workspace := { disk := pairDisk data [] }
  session := { network := () }

/-- What is read with the archive and a name, and perhaps a directory. -/
theorem read_pair (data : Bytes) {options : List String} {output : Option String}
    (others : Arguments.read Command.renderSwitches true options = .ok ⟨output.toList.map (("output", ·)), []⟩) :
    Command.read (pairStart data).workspace.disk ("render" :: "t.tar.gz" :: "-n" :: "demo" :: options) =
      .ok (.render "t.tar.gz" "demo" Project.noPort output {}) := by
  have outer (rest : List String) : Arguments.read Command.programSwitches false ("render" :: rest) =
      .ok ⟨[], "render" :: rest⟩ := by
    rw [Arguments.read, if_neg (by decide), if_neg (by decide), if_neg (by decide)]
  have inner : Arguments.read Command.renderSwitches true ("t.tar.gz" :: "-n" :: "demo" :: options) =
      .ok ⟨("name", "demo") :: output.toList.map (("output", ·)), ["t.tar.gz"]⟩ := by
    refine Arguments.read_operand (a := ⟨("name", "demo") :: output.toList.map (("output", ·)), []⟩) (by decide)
      (by decide) ?_
    exact Arguments.read_value (by decide) (by decide) (by cbv) others
  have there : Command.file (pairDisk data []) "archive" "t.tar.gz" = .ok "t.tar.gz" := by cbv
  have named : Command.named (pairDisk data []) "render" ("t.tar.gz" :: "-n" :: "demo" :: options) =
      .ok (.render "t.tar.gz" "demo" Project.noPort output {}) := by
    change Command.ofArguments Command.renderSwitches _ ("t.tar.gz" :: "-n" :: "demo" :: options) = _
    have finds (output : Option String) : (Command.file (pairDisk data []) "archive" "t.tar.gz" >>= fun archive =>
        Except.ok (Command.render archive "demo" Project.noPort output {})) =
          .ok (.render "t.tar.gz" "demo" Project.noPort output {}) := by
      rw [there]
      rfl
    rw [Command.ofArguments, inner]
    cases output with
    | none => exact finds none
    | some output => exact finds (some output)
  have unswitched (rest : List String) : Command.ofProgramSwitches ⟨[], "render" :: rest⟩ = none := rfl
  rw [Command.read, outer, ok_bind, unswitched, pairStart]
  simp only [named]

theorem read_pairStart (data : Bytes) (output : String) :
    Command.read (pairStart data).workspace.disk (pairArguments output) =
      .ok (.render "t.tar.gz" "demo" Project.noPort (some output) {}) :=
  read_pair data (Arguments.read_value (a := {}) (by decide) (by decide) (by cbv) (by rw [Arguments.read]))

/-- The parameters of the renderings. -/
def pairParameters : Project.Parameters :=
  ⟨"demo", Project.noPort, by decide⟩

theorem run_prepare_pair {data : Bytes} {root : List Char} {manifest : Manifest} {w t t' : Workspace}
    (disk : w.disk = pairDisk data []) (unpacked : (Archive.unpack data "/to".toList).run w = (.ok root, t))
    (made : (Materializer.materialize {} root pairParameters).run t = (.ok manifest, t')) :
    (prepare pairSurroundings.directory {} "t.tar.gz" "demo" Project.noPort).run w = (.ok manifest, t') := by
  have there : (pairDisk data []).read (Disk.tidy "t.tar.gz".toList) = .ok data := by cbv
  have got : (Work.disk : Work RenderFault Disk).run w = (.ok w.disk, w) := rfl
  have whole : (Materializer.materializeArchive {} data pairParameters "/to".toList).run w = (.ok manifest, t') := by
    rw [Materializer.materializeArchive, run_bind, Work.run_within, unpacked]
    exact made
  change (gather "/to".toList {} (Disk.tidy "t.tar.gz".toList) pairParameters).run w = _
  rw [gather, run_bind, got, disk]
  simp only [there]
  rw [Work.run_within, whole]

/-- Renderings of the archive find no configuration, and make its manifest. -/
theorem exists_prepare_pairManifest : ∃ w t,
    (Configuration.load pairSurroundings.environment ({} : Shared).config).run
      (pairStart (Archive.store pairArchive)).workspace = (.ok ⟨none, {}⟩, w) ∧
    (prepare pairSurroundings.directory {} "t.tar.gz" "demo" Project.noPort).run w = (.ok pairManifest, t) ∧
    t.disk = pairDisk (Archive.store pairArchive) bothUnpacked := by
  have found (data : Bytes) :
      Configuration.findPath (pairDisk data []) pairSurroundings.environment none = .ok none := by
    cbv
  let w : Workspace := ⟨pairDisk (Archive.store pairArchive) [], [Configuration.defaultsRecord]⟩
  obtain ⟨t, unpacked, held⟩ := exists_unpack_pair (w := w) _ rfl
  obtain ⟨t', made, same⟩ := exists_materialize_pair _ pairParameters held
  refine ⟨w, t', ?_, run_prepare_pair rfl unpacked made, same.trans held⟩
  rw [Configuration.run_load, pairStart, found]
  rfl

/-- This manifest has two files. -/
theorem exists_prepare_pair : ∃ w manifest t,
    (Configuration.load pairSurroundings.environment ({} : Shared).config).run
      (pairStart (Archive.store pairArchive)).workspace = (.ok ⟨none, {}⟩, w) ∧
    (prepare pairSurroundings.directory {} "t.tar.gz" "demo" Project.noPort).run w = (.ok manifest, t) ∧
    t.disk = pairDisk (Archive.store pairArchive) bothUnpacked ∧
    (∀ entry ∈ manifest.entries, Disk.isAbsolute entry.1.toList = false) ∧ routes manifest = pairFiles := by
  obtain ⟨w, t, loads, prepared, disk⟩ := exists_prepare_pairManifest
  exact ⟨w, pairManifest, t, loads, prepared, disk, isAbsolute_pairManifest, routes_pairManifest⟩

theorem opened_pairStart (data : Bytes) :
    Archive.Opened ["to".toList] (pairStart data).workspace.disk pairSurroundings.directory :=
  ⟨⟨_, .down ⟨_, rfl⟩ (by decide) (by decide) rfl nofun .arrived⟩,
    Disk.wellFormed_of_forall_mem (of_decide_eq_true rfl)⟩

theorem isPlain_pairDisk (data : Bytes) : Disk.IsPlain (pairDisk data bothUnpacked) ['.'] [] := by
  have opened : (pairDisk data bothUnpacked).locate true ['.'] = .ok ⟨[], some (.directory Disk.directoryMode)⟩ := by
    cbv
  refine ⟨Disk.wellFormed_of_forall_mem (of_decide_eq_true rfl), ⟨_, opened⟩, fun names => ?_⟩
  have unlinked : ∀ entry ∈ (pairDisk data bothUnpacked).places, (pairDisk data bothUnpacked).linkAt entry.1 = none :=
    of_decide_eq_true rfl
  by_contra linked
  have some : names ≠ [] := by
    rintro rfl
    exact linked rfl
  have held : (pairDisk data bothUnpacked).get? names ≠ none := by
    intro absent
    rw [List.nil_append, Disk.linkAt, absent] at linked
    exact linked rfl
  obtain ⟨entry, known, rfl⟩ := (Disk.get?_ne_none_iff some).mp held
  exact linked (unlinked entry known)

/-- The files suit a new directory. -/
theorem suits_new (data : Bytes) {manifest : Manifest}
    (relative : ∀ entry ∈ manifest.entries, Disk.isAbsolute entry.1.toList = false)
    (files : routes manifest = pairFiles) :
    Suits (pairDisk data bothUnpacked) ['.'] [] ["new".toList] "new".toList manifest := by
  refine ⟨isPlain_pairDisk data, by decide, by decide, relative, ?_, ?_⟩
  · rw [files]
    decide
  · rw [files]
    decide

end Pair

/-! ## Renderings -/

end Stencil.CommandLine
