import Mathlib
import Stencil.Proofs.Disk.Appending
import Stencil.Proofs.Log.Journal

/-!
# What stands in the file of records

Loggers are asked for, levels are set, files are opened and records are made in any order.  The console and one file
are attached at most once each.  From the first opening on, the file holds what it held then and one line for each
record that reaches both levels, and every other opening leaves all as it is.

The file is opened by the path from the root that is left when every two points in the path asked for take back the
name before them.  Behind a link, two points lead elsewhere; the path that the first opening answers with is then not
the path of the file.
-/

namespace Stencil.Log

/-! ## Steps -/

/-- A request to send records to a file. -/
structure Opening where
  /-- How directories are made. -/
  makeDirectories : List Char → Disk.Change Unit
  /-- The time. -/
  time : String
  /-- The path that is asked for. -/
  given : Option String
  /-- Whether details are recorded. -/
  verbose : Bool
  /-- Whether directories are made or not, one can still work on the disk. -/
  keeps : ∀ path, Keeps (makeDirectories path) Disk.IsUsable

/-- A step. -/
inductive Step
  /-- Asks for a logger. -/
  | getLogger (name : String)
  /-- Sets the level of all loggers. -/
  | setVerbosity (verbose : Bool)
  /-- Sends records to a file. -/
  | openFile (opening : Opening)
  /-- Makes a record through the logger of a name. -/
  | record (time name : String) (entry : Entry)

/-- What steps change. -/
structure Desk where
  /-- Where records go. -/
  journal : Journal := {}
  /-- The disk. -/
  disk : Disk

/-- Takes a request, and answers with the path in use or with what stopped it. -/
def Opening.take (places : JournalPlaces) (opening : Opening) (desk : Desk) :
    Except Disk.Fault (List Char) × Desk :=
  match (desk.journal.openFile opening.makeDirectories places opening.time opening.given opening.verbose).run
      desk.disk with
  | (.ok (path, _, journal), disk) => (.ok path, ⟨journal, disk⟩)
  | (.error fault, disk) => (.error fault, ⟨desk.journal.rooted, disk⟩)

/-- Takes a step; a record that cannot be written stops nothing. -/
def Step.take (places : JournalPlaces) (desk : Desk) : Step → Desk
  | .getLogger _ => { desk with journal := desk.journal.rooted }
  | .setVerbosity verbose => { desk with journal := desk.journal.setVerbosity verbose }
  | .openFile opening => (opening.take places desk).2
  | .record time name entry =>
    ⟨desk.journal.rooted, ((desk.journal.rooted.record time (loggerName name) entry).run desk.disk).2⟩

/-- Takes steps one after the other. -/
def run (places : JournalPlaces) (steps : List Step) (desk : Desk) : Desk :=
  steps.foldl (Step.take places) desk

/-- The level behind a step: only setting it changes it. -/
def Step.levelAfter (level : Int) : Step → Int
  | .setVerbosity verbose => threshold verbose
  | .getLogger _ | .openFile _ | .record _ _ _ => level

/-- What a step adds to an open file: a record that reaches the level of all loggers and that of the file adds its
line. -/
def Step.line (own level : Int) : Step → List Char
  | .record time name entry =>
    if level ≤ entry.level.rank ∧ own ≤ entry.level.rank then (fileLine time (loggerName name) entry).toList else []
  | .getLogger _ | .setVerbosity _ | .openFile _ => []

/-- What steps add to an open file. -/
def written (own : Int) : Int → List Step → List Char
  | _, [] => []
  | level, step :: steps => step.line own level ++ written own (step.levelAfter level) steps

/-- Whether the steps from a desk on treat a path as that of the open file; opening it has set the level of all loggers
to that of the file. -/
structure KeepsBooks (places : JournalPlaces) (desk : Desk) (own : Int) (kept : Bytes) (path : List Char) : Prop where
  /-- Every other opening changes nothing and answers with a path of the same file. -/
  again : ∀ steps, ∀ opening : Opening, ∃ used,
    opening.take places (run places steps desk) = (.ok used, run places steps desk) ∧
      Disk.SameFile (run places steps desk).disk used path
  /-- What was kept stands at the head of the file, and behind it every record that reaches both levels, once and in
  order. -/
  records : ∀ steps, (run places steps desk).disk.read path = .ok (kept ++ Text.Utf8.encode (written own own steps))

/-- Whether no file is opened in the course of steps. -/
def OpensNone (places : JournalPlaces) (steps : List Step) (desk : Desk) : Prop :=
  ∀ earlier opening, earlier ++ [.openFile opening] <+: steps →
    ∃ fault, (opening.take places (run places earlier desk)).1 = .error fault

variable {places : JournalPlaces} {start : Disk} {desk : Desk} {file : JournalFile} {level : Int} {content : Bytes}

/-! ## An open file -/

/-- A file is open, and its path leads to some content. -/
structure IsOpen (start : Disk) (desk : Desk) (file : JournalFile) (level : Int) (content : Bytes) : Prop where
  /-- The console and the file are attached. -/
  journal : desk.journal = ⟨level, [.console, .file file]⟩
  /-- What led to a file still does. -/
  grown : Disk.Grown [] start desk.disk
  /-- The path leads to the content. -/
  located : ∃ route mode, desk.disk.locate true file.path = .ok ⟨route, some (.file content mode)⟩

/-- A record adds its line to an open file, and nothing stops it. -/
theorem IsOpen.ensures_record (isOpen : IsOpen start desk file level content) (usable : start.IsUsable)
    (time name : String) (entry : Entry) :
    Ensures (desk.journal.record time (loggerName name) entry) desk.disk
      (fun _ t => IsOpen start ⟨desk.journal, t⟩ file level
        (content ++ Text.Utf8.encode ((Step.record time name entry).line file.rank level)))
      fun _ _ => False := by
  obtain ⟨journal, grown, route, mode, located⟩ := isOpen
  have same (quiet : ¬(level ≤ entry.level.rank ∧ file.rank ≤ entry.level.rank)) :
      IsOpen start desk file level
        (content ++ Text.Utf8.encode ((Step.record time name entry).line file.rank level)) := by
    rw [Step.line, if_neg quiet]
    exact ⟨journal, grown, route, mode, by rw [located]; simp [Text.Utf8.encode]⟩
  have isMade : desk.journal.isMade entry.level = decide (level ≤ entry.level.rank) := by
    rw [journal]
    rfl
  rw [Journal.record, isMade]
  by_cases made : level ≤ entry.level.rank
  · rw [if_pos (decide_eq_true made), journal, List.forM_eq_forM, List.forM_cons, List.forM_cons]
    refine .bind (.pure (.bind ?_))
    rw [Handler.take]
    by_cases reached : file.rank ≤ entry.level.rank
    · rw [if_pos reached, Step.line, if_pos ⟨made, reached⟩]
      refine (Disk.ensures_appendFile_found (usable.grown grown) located _).mono (fun _ t added => ?_)
        fun _ _ impossible => impossible
      exact .pure ⟨rfl, grown.trans added.1, route, mode, added.2⟩
    · rw [if_neg reached]
      exact .pure (.pure (journal ▸ same (fun both => reached both.2)))
  · rw [if_neg (by simpa using made)]
    exact .pure (same fun both => made both.1)

theorem IsOpen.file_eq (isOpen : IsOpen start desk file level content) : desk.journal.file = some file := by
  rw [isOpen.journal]
  rfl

theorem IsOpen.rooted (isOpen : IsOpen start desk file level content) : desk.journal.rooted = desk.journal := by
  rw [isOpen.journal]
  rfl

/-- Another opening answers with the path of the open file and leaves all as it is. -/
theorem IsOpen.opens_again (isOpen : IsOpen start desk file level content) (places : JournalPlaces)
    (opening : Opening) :
    opening.take places desk = (.ok file.path, desk) := by
  rw [Opening.take, Journal.openFile, Journal.file_rooted, isOpen.file_eq, isOpen.rooted]
  rfl

/-- A step adds its line to an open file. -/
theorem IsOpen.take (isOpen : IsOpen start desk file level content) (usable : start.IsUsable) (step : Step) :
    IsOpen start (step.take places desk) file (step.levelAfter level)
      (content ++ Text.Utf8.encode (step.line file.rank level)) := by
  have silent : content ++ Text.Utf8.encode [] = content := List.append_nil content
  cases step with
  | getLogger name =>
      rw [Step.take, isOpen.rooted, Step.line, silent]
      exact isOpen
  | setVerbosity verbose =>
      rw [Step.take, Step.line, silent, Journal.setVerbosity, isOpen.rooted, isOpen.journal]
      exact ⟨rfl, isOpen.grown, isOpen.located⟩
  | openFile opening =>
      rw [Step.take, isOpen.opens_again, Step.line, silent]
      exact isOpen
  | record time name entry =>
      obtain ⟨_, t, ran, added⟩ | ⟨_, _, -, impossible⟩ := (isOpen.ensures_record usable time name entry).outcome
      · rw [Step.take, isOpen.rooted, ran]
        exact added
      · exact impossible.elim

theorem IsOpen.run (isOpen : IsOpen start desk file level content) (usable : start.IsUsable) (places : JournalPlaces)
    (steps : List Step) :
    IsOpen start (run places steps desk) file (steps.foldl Step.levelAfter level)
      (content ++ Text.Utf8.encode (written file.rank level steps)) := by
  induction steps generalizing desk level content with
  | nil =>
      rw [written, Text.Utf8.encode, List.flatMap_nil, List.append_nil]
      exact isOpen
  | cons step steps induction =>
      rw [written, Text.Utf8.encode_append, ← List.append_assoc]
      exact induction (isOpen.take usable step)

/-- The steps from an open file on keep the books of every path that leads to it. -/
theorem IsOpen.keepsBooks (isOpen : IsOpen desk.disk desk file file.rank content) (usable : desk.disk.IsUsable)
    {path : List Char} (same : Disk.SameFile desk.disk file.path path) :
    KeepsBooks places desk file.rank content path where
  again steps opening :=
    have later := isOpen.run usable places steps
    ⟨file.path, later.opens_again places opening, same.grown later.grown⟩
  records steps := by
    have later := isOpen.run usable places steps
    obtain ⟨route, mode, located⟩ := later.located
    rw [← (same.grown later.grown).read_eq, Disk.read, located]

/-! ## Opening -/

theorem keeps_prepare (opening : Opening) (places : JournalPlaces) (path : List Char) :
    Keeps (Journal.prepare opening.makeDirectories places path) Disk.IsUsable := by
  refine .tryCatch (.bind (opening.keeps _) fun _ => .pure _) fun fault => ?_
  split
  · exact .pure _
  · exact .throw _

/-- Without a file, a request either opens one, where its own record comes first, or is stopped. -/
theorem ensures_openFile {d : Disk} (usable : d.IsUsable) {j : Journal} (orderly : j.IsOrderly)
    (unfiled : j.file = none) (places : JournalPlaces) (opening : Opening) :
    Ensures (j.openFile opening.makeDirectories places opening.time opening.given opening.verbose) d
      (fun (path, _, opened) t => ∃ prepared,
        (Journal.prepare opening.makeDirectories places (Journal.target places opening.given)).run d =
          (.ok path, prepared) ∧ t.IsUsable ∧
        IsOpen t ⟨opened, t⟩ ⟨t.absolute path, threshold opening.verbose⟩ (threshold opening.verbose)
          (prepared.contentAt (t.absolute path) ++ Text.Utf8.encode ((Step.record opening.time rootName
            (Journal.openedEntry path)).line (threshold opening.verbose) (threshold opening.verbose))))
      fun _ t => t.IsUsable := by
  have handlers : j.rooted.handlers = [.console] := by
    rw [orderly.handlers_rooted, unfiled]
    rfl
  rw [Journal.openFile, Journal.file_rooted, unfiled]
  have prepares := (keeps_prepare opening places (Journal.target places opening.given)).ensures_run usable
  refine .bind (prepares.mono (fun path prepared made => ?_) fun _ _ held => held)
  obtain ⟨ran, held⟩ := made
  refine .bind (.get (.bind ?_))
  refine (Disk.ensures_appendFile held _ _).mono (fun _ made added => ?_) fun _ t same => same ▸ held
  obtain ⟨grown, located⟩ := added
  -- The file is empty or as it was; the first record is the one of its opening.
  rw [List.append_nil] at located
  have opened : (j.rooted.attach ⟨prepared.absolute path, threshold opening.verbose⟩).setVerbosity opening.verbose =
      ⟨threshold opening.verbose, [.console, .file ⟨prepared.absolute path, threshold opening.verbose⟩]⟩ := by
    rw [Journal.setVerbosity, Journal.attach, handlers]
    rfl
  have isOpen : IsOpen prepared ⟨_, made⟩ ⟨prepared.absolute path, threshold opening.verbose⟩
      (threshold opening.verbose) (prepared.contentAt (prepared.absolute path)) := ⟨opened, grown, located⟩
  have records := isOpen.ensures_record held opening.time rootName (Journal.openedEntry path)
  refine .bind (records.mono (fun _ t recorded => ?_) fun _ _ impossible => impossible.elim)
  have same : t.absolute path = prepared.absolute path := by
    rw [Disk.absolute, Disk.absolute, recorded.grown.here]
  have usableAfter := held.grown recorded.grown
  refine .pure ⟨prepared, ran, usableAfter, ?_⟩
  rw [same]
  exact ⟨recorded.journal, usableAfter.wellFormed.grown [], recorded.located⟩

/-! ## Desks that steps lead to -/

/-- Whether a desk has what steps leave in order. -/
structure Desk.IsSound (desk : Desk) : Prop where
  /-- The console and at most one file are attached. -/
  orderly : desk.journal.IsOrderly
  /-- One can work on the disk. -/
  usable : desk.disk.IsUsable

theorem keeps_record (j : Journal) (time logger : String) (entry : Entry) :
    Keeps (j.record time logger entry) Disk.IsUsable := by
  rw [Journal.record]
  split
  · refine fun d usable => Ensures.forM (fun handler _ t held => ?_) usable
    cases handler with
    | console => exact .pure held
    | file opened =>
        rw [Handler.take]
        split
        · refine (Disk.ensures_appendFile held _ _).mono (fun _ _ added => ?_) fun _ _ same => same ▸ held
          exact held.grown added.1
        · exact .pure held
  · exact .pure ()

theorem Desk.IsSound.opened (sound : desk.IsSound) (opening : Opening) : (opening.take places desk).2.IsSound := by
  cases filed : desk.journal.file with
  | some opened =>
      rw [Opening.take, Journal.openFile, Journal.file_rooted, filed]
      exact ⟨sound.orderly.rooted, sound.usable⟩
  | none =>
      have opens := ensures_openFile sound.usable sound.orderly filed places opening
      obtain ⟨made, t, ran, prepared, -, usable, isOpen⟩ | ⟨fault, t, ran, usable⟩ := opens.outcome
      · rw [Opening.take, ran]
        exact ⟨.inr (by rw [isOpen.file_eq, isOpen.journal]; rfl), usable⟩
      · rw [Opening.take, ran]
        exact ⟨sound.orderly.rooted, usable⟩

/-- The first opening leaves an open file, where its own record comes behind what was there. -/
theorem Desk.IsSound.isOpen_of_take (sound : desk.IsSound) (unfiled : desk.journal.file = none) {opening : Opening}
    {path : List Char} {after : Desk} (first : opening.take places desk = (.ok path, after)) :
    ∃ prepared,
      (Journal.prepare opening.makeDirectories places (Journal.target places opening.given)).run desk.disk =
        (.ok path, prepared) ∧ after.disk.IsUsable ∧
      IsOpen after.disk after ⟨after.disk.absolute path, threshold opening.verbose⟩ (threshold opening.verbose)
        (prepared.contentAt (after.disk.absolute path) ++ Text.Utf8.encode ((Step.record opening.time rootName
          (Journal.openedEntry path)).line (threshold opening.verbose) (threshold opening.verbose))) := by
  have opens := ensures_openFile sound.usable sound.orderly unfiled places opening
  obtain ⟨made, t, ran, opened⟩ | ⟨fault, t, ran, -⟩ := opens.outcome
  · rw [Opening.take, ran] at first
    cases first
    exact opened
  · rw [Opening.take, ran] at first
    cases first

theorem Desk.IsSound.take (sound : desk.IsSound) (step : Step) : (step.take places desk).IsSound := by
  cases step with
  | getLogger name => exact ⟨sound.orderly.rooted, sound.usable⟩
  | setVerbosity verbose => exact ⟨sound.orderly.setVerbosity verbose, sound.usable⟩
  | openFile opening => exact sound.opened opening
  | record time name entry =>
      exact ⟨sound.orderly.rooted, (keeps_record desk.journal.rooted time (loggerName name) entry).state sound.usable⟩

theorem Desk.IsSound.run (sound : desk.IsSound) (places : JournalPlaces) (steps : List Step) :
    (run places steps desk).IsSound := by
  induction steps generalizing desk with
  | nil => exact sound
  | cons step steps induction => exact induction (sound.take step)

theorem run_concat (places : JournalPlaces) (steps : List Step) (step : Step) (desk : Desk) :
    run places (steps ++ [step]) desk = step.take places (run places steps desk) := by
  rw [run, List.foldl_concat, run]

theorem Opening.journal_of_error {opening : Opening} {fault : Disk.Fault}
    (stopped : (opening.take places desk).1 = .error fault) :
    (opening.take places desk).2.journal = desk.journal.rooted := by
  rw [Opening.take] at stopped ⊢
  split
  · rename_i ran
    rw [ran] at stopped
    cases stopped
  · rfl

/-- As long as no file was opened, there is none. -/
theorem OpensNone.file_run {steps : List Step} (opensNone : OpensNone places steps desk)
    (unfiled : desk.journal.file = none) : (run places steps desk).journal.file = none := by
  induction steps using List.reverseRecOn with
  | nil => exact unfiled
  | append_singleton steps step induction =>
      have earlier : (run places steps desk).journal.file = none :=
        induction fun earlier opening early => opensNone earlier opening (early.trans (List.prefix_append _ _))
      rw [run_concat]
      cases step with
      | getLogger name => exact (Journal.file_rooted _).trans earlier
      | setVerbosity verbose => exact (Journal.file_setVerbosity _ verbose).trans earlier
      | openFile opening =>
          obtain ⟨fault, stopped⟩ := opensNone steps opening List.prefix_rfl
          rw [Step.take, Opening.journal_of_error stopped, Journal.file_rooted, earlier]
      | record time name entry => exact (Journal.file_rooted _).trans earlier

/-- The console and a file are attached at most once each, and a record leaves the disk as it is when no file is
attached.  From the first opening on, the books of the path from the root are kept; those of the path that the opening
answered with are kept if and only if it leads to the same file, as every path does that never leads up. -/
theorem keepsBooks_iff (places : JournalPlaces) {start : Disk} (usable : start.IsUsable) {before : List Step}
    (opensNone : OpensNone places before ⟨{}, start⟩) (opening : Opening) {path : List Char} {desk : Desk}
    (first : opening.take places (run places before ⟨{}, start⟩) = (.ok path, desk)) :
    (∀ steps, let reached := run places steps ⟨{}, start⟩
      reached.journal.handlers.countP Handler.isConsole ≤ 1 ∧ reached.journal.handlers.countP (·.file?.isSome) ≤ 1 ∧
        (reached.journal.file = none → ∀ time name entry,
          ((Step.record time name entry).take places reached).disk = reached.disk)) ∧
      ∃ prepared,
        (Journal.prepare opening.makeDirectories places (Journal.target places opening.given)).run
          (run places before ⟨{}, start⟩).disk = (.ok path, prepared) ∧
        let own := threshold opening.verbose
        let file := desk.disk.absolute path
        let kept := prepared.contentAt file ++
          Text.Utf8.encode ((Step.record opening.time rootName (Journal.openedEntry path)).line own own)
        KeepsBooks places desk own kept file ∧
          (KeepsBooks places desk own kept path ↔ Disk.SameFile desk.disk file path) ∧
          (Disk.IsLevel path → KeepsBooks places desk own kept path) := by
  have sound : Desk.IsSound ⟨{}, start⟩ := ⟨.inl rfl, usable⟩
  refine ⟨fun steps => ?_, ?_⟩
  · have reached := sound.run places steps
    refine ⟨reached.orderly.attached_once.1, reached.orderly.attached_once.2, fun unfiled time name entry => ?_⟩
    rw [← Journal.file_rooted] at unfiled
    have keeps : Keeps ((run places steps ⟨{}, start⟩).journal.rooted.record time (loggerName name) entry)
        (· = (run places steps ⟨{}, start⟩).disk) := Journal.keeps_record_unfiled unfiled time _ entry
    exact keeps.state rfl
  · have unfiled : (run places before ⟨{}, start⟩).journal.file = none := opensNone.file_run rfl
    obtain ⟨prepared, prepares, usable, isOpen⟩ := (sound.run places before).isOpen_of_take unfiled first
    obtain ⟨route, mode, located⟩ := isOpen.located
    have itself : Disk.SameFile desk.disk (desk.disk.absolute path) (desk.disk.absolute path) :=
      ⟨route, _, mode, located, located⟩
    refine ⟨prepared, prepares, isOpen.keepsBooks usable itself, ⟨fun keeps => ?_, isOpen.keepsBooks usable⟩,
      fun level => isOpen.keepsBooks usable (usable.sameFile_absolute level located)⟩
    obtain ⟨used, again, same⟩ := keeps.again [] opening
    rw [run, List.foldl_nil, isOpen.opens_again] at again
    cases again
    exact same

/-- A request to send all records but details to the file of a path. -/
def openingOf (given : String) : Opening where
  makeDirectories := Disk.ensureDirectories
  time := "12:00"
  given := some given
  verbose := false
  keeps := Disk.keeps_ensureDirectories_usable

/-- Such a request opens the file as soon as there is a place for it. -/
theorem take_openingOf {given : String} {path : List Char} {prepared t : Disk}
    (handlers : desk.journal.rooted.handlers = [.console])
    (prepares : (Journal.prepare Disk.ensureDirectories places (Journal.target places (some given))).run desk.disk =
      (.ok path, prepared))
    (appends : (Disk.appendFile (prepared.absolute path) []).run prepared = (.ok (), t)) :
    (openingOf given).take places desk =
      (.ok path, ⟨⟨threshold false, [.console, .file ⟨prepared.absolute path, threshold false⟩]⟩, t⟩) := by
  have unfiled : desk.journal.file = none := by
    rw [← Journal.file_rooted, Journal.file, handlers]
    rfl
  have opened : (desk.journal.rooted.attach
      ⟨prepared.absolute path, threshold (openingOf given).verbose⟩).setVerbosity (openingOf given).verbose =
        ⟨threshold false, [.console, .file ⟨prepared.absolute path, threshold false⟩]⟩ := by
    rw [Journal.setVerbosity, Journal.attach, handlers]
    rfl
  have ran : (desk.journal.openFile (openingOf given).makeDirectories places (openingOf given).time
      (openingOf given).given (openingOf given).verbose).run desk.disk =
        (.ok (path, [], ⟨threshold false, [.console, .file ⟨prepared.absolute path, threshold false⟩]⟩), t) := by
    rw [Journal.openFile, Journal.file_rooted, unfiled]
    refine run_bind_eq_ok_iff.mpr ⟨path, prepared, prepares, ?_⟩
    refine run_bind_eq_ok_iff.mpr ⟨prepared, prepared, rfl, ?_⟩
    refine run_bind_eq_ok_iff.mpr ⟨(), t, appends, ?_⟩
    simp only [opened]
    rfl
  rw [Opening.take, ran]

/-- The files that records go to in a home directory. -/
def homePlaces : JournalPlaces :=
  .below "/home".toList

/-- A disk with a file for records. -/
def filedDisk : Disk :=
  { places := [(["x.log".toList], .file (Text.Utf8.encode "old\n".toList) Disk.fileMode)] }

theorem isUsable_filedDisk : filedDisk.IsUsable where
  wellFormed := Disk.wellFormed_of_forall_mem (by decide)
  opens := Disk.holdsDirectory_nil _
  areNames := nofun

/-- Steps before a file is opened. -/
def earlySteps : List Step :=
  [.getLogger "cli", .setVerbosity true, .record "11:59" "cli" ⟨.info, "early"⟩]

theorem opensNone_earlySteps (places : JournalPlaces) (desk : Desk) : OpensNone places earlySteps desk := by
  intro earlier opening early
  have known := early.subset (List.mem_append_right earlier List.mem_cons_self)
  simp [earlySteps] at known

/-- The path of a file in the current directory is the path of the file, and the early record is not in it. -/
theorem keepsBooks_current_directory :
    ∃ desk,
      (openingOf "x.log").take homePlaces (run homePlaces earlySteps ⟨{}, filedDisk⟩) = (.ok "x.log".toList, desk) ∧
      KeepsBooks homePlaces desk Level.info.rank (Text.Utf8.encode "old\n".toList) "x.log".toList := by
  have prepares : (Journal.prepare Disk.ensureDirectories homePlaces (Journal.target homePlaces (some "x.log"))).run
      filedDisk = (.ok "x.log".toList, filedDisk) := by cbv
  have appends : (Disk.appendFile (filedDisk.absolute "x.log".toList) []).run filedDisk = (.ok (), filedDisk) := by cbv
  have kept : filedDisk.contentAt (filedDisk.absolute "x.log".toList) ++ [] = Text.Utf8.encode "old\n".toList := by cbv
  have opened : (openingOf "x.log").take homePlaces (run homePlaces earlySteps ⟨{}, filedDisk⟩) = _ :=
    take_openingOf rfl prepares appends
  obtain ⟨-, prepared, prepares', -, -, keeps⟩ := keepsBooks_iff homePlaces isUsable_filedDisk
    (opensNone_earlySteps homePlaces _) (openingOf "x.log") opened
  obtain rfl : filedDisk = prepared := congrArg Prod.snd (prepares.symm.trans prepares')
  exact ⟨_, opened, kept ▸ keeps ⟨by cbv, by decide⟩⟩

/-- A disk with a link to a directory that is not in the current one. -/
def linkedDisk : Disk :=
  { places := [(["d".toList], .directory Disk.directoryMode), (["d".toList, "e".toList], .directory Disk.directoryMode),
      (["link".toList], .link "d/e".toList)] }

/-- Behind a link, the path that leads up again is not the path of the file that is opened. -/
theorem not_keepsBooks_behind_link :
    linkedDisk.IsUsable ∧
      ∃ desk, (openingOf "link/../x.log").take homePlaces ⟨{}, linkedDisk⟩ = (.ok "link/../x.log".toList, desk) ∧
        (openingOf "link/../x.log").take homePlaces desk = (.ok "/x.log".toList, desk) ∧
        desk.disk.locate true "/x.log".toList = .ok ⟨["x.log".toList], some (.file [] Disk.fileMode)⟩ ∧
        desk.disk.locate true "link/../x.log".toList = .ok ⟨["d".toList, "x.log".toList], none⟩ ∧
        ∀ own kept, ¬KeepsBooks homePlaces desk own kept "link/../x.log".toList := by
  have usable : linkedDisk.IsUsable :=
    ⟨Disk.wellFormed_of_forall_mem (by decide), Disk.holdsDirectory_nil _, nofun⟩
  have prepares : (Journal.prepare Disk.ensureDirectories homePlaces
      (Journal.target homePlaces (some "link/../x.log"))).run linkedDisk =
        (.ok "link/../x.log".toList, linkedDisk) := by cbv
  have appends : (Disk.appendFile (linkedDisk.absolute "link/../x.log".toList) []).run linkedDisk =
      (.ok (), linkedDisk.put ["x.log".toList] (.file [] Disk.fileMode)) := by cbv
  have file : (linkedDisk.put ["x.log".toList] (.file [] Disk.fileMode)).locate true "/x.log".toList =
      .ok ⟨["x.log".toList], some (.file [] Disk.fileMode)⟩ := by cbv
  have missed : (linkedDisk.put ["x.log".toList] (.file [] Disk.fileMode)).locate true "link/../x.log".toList =
      .ok ⟨["d".toList, "x.log".toList], none⟩ := by cbv
  have opened : (openingOf "link/../x.log").take homePlaces ⟨{}, linkedDisk⟩ = _ := take_openingOf rfl prepares appends
  have sound : Desk.IsSound ⟨{}, linkedDisk⟩ := ⟨.inl rfl, usable⟩
  obtain ⟨prepared, -, -, isOpen⟩ := sound.isOpen_of_take rfl opened
  have again := isOpen.opens_again homePlaces (openingOf "link/../x.log")
  refine ⟨usable, _, opened, again, file, missed, fun own kept keeps => ?_⟩
  obtain ⟨used, -, route, content, mode, -, located⟩ := keeps.again [] (openingOf "link/../x.log")
  cases missed.symm.trans located

end Stencil.Log
