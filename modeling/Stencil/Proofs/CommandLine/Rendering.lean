import Mathlib
import Stencil.CommandLine.Run
import Stencil.Proofs.Archive.Confinement
import Stencil.Proofs.Console.Escape
import Stencil.Proofs.Log.Journal

/-!
# Rendering into a directory

A rendering first makes the manifest of an archive, which changes nothing outside of the directory where archives are
unpacked, and then lays the files of the manifest down one after the other.  What stops the first part is said, with
few exceptions; nothing that stops the second part is, and the files before it stay.
-/

namespace Stencil

namespace Work

variable {ε δ α : Type} {holds : Disk → Prop}

theorem run_within (failure : δ → ε) (part : Work δ α) (w : Workspace) :
    (within failure part).run w =
      match part.run w with
      | (.ok a, t) => (.ok a, t)
      | (.error fault, t) => (.error (failure fault), t) := by
  have state : (get : Work ε Workspace).run w = (.ok w, w) := rfl
  rw [within, run_bind, state]
  simp only
  rcases part.run w with ⟨fault | a, t⟩ <;> rfl

theorem keeps_within {failure : δ → ε} {part : Work δ α} (keeps : Keeps part fun w => holds w.disk) :
    Keeps (within failure part) fun w => holds w.disk := by
  intro w start
  obtain ⟨a, t, ran, held⟩ | ⟨fault, t, ran, held⟩ := (keeps w start).outcome
  · rw [Ensures, run_within, ran]
    exact held
  · rw [Ensures, run_within, ran]
    exact held

end Work

/-! ## Making the manifest -/

namespace Materializer

variable (m : Materializer) (p : Project.Parameters) {holds : Disk → Prop}

theorem keeps_renderFile (path : String) (text : List Char) :
    Keeps (m.renderFile p path text) fun w => holds w.disk := by
  refine .bind (Work.keeps_report _ _) fun _ => ?_
  split
  · exact .pure _
  · rename_i fault _
    refine .bind ?_ fun _ => .throw _
    unfold reportPage
    split
    · split
      · exact .pure _
      · exact Work.keeps_report _ _
    · exact .pure _

theorem keeps_makeFile (source : List Char) (path : String) (c : Classification) :
    Keeps (m.makeFile p source path c) fun w => holds w.disk := by
  intro w start
  refine .bind (.bind (.get (.pure ?_)))
  split
  · exact .throw start
  · split
    · exact .pure start
    · split
      · exact .throw start
      · exact .pure start
    · split
      · exact .throw start
      · exact Keeps.bind (keeps_renderFile m p _ _) (fun _ => .pure _) w start

theorem keeps_takeIn (root : List Char) (progress : Progress) (names : Disk.Route) :
    Keeps (m.takeIn p root progress names) fun w => holds w.disk := by
  intro w start
  refine .bind (.bind (.get (.pure ?_)))
  split
  · exact .pure start
  · refine Keeps.bind (keeps_makeFile m p _ _ _) (fun file => ?_) w start
    split
    · exact .throw _
    · rename_i log _
      refine .bind (fun t held => .forM (fun entry _ u held => Work.keeps_report _ _ u held) held) fun _ => .pure _

/-- Making a manifest changes nothing on the disk. -/
theorem keeps_materialize (root : List Char) : Keeps (m.materialize root p) fun w => holds w.disk := by
  intro w start
  refine .bind (.bind (.get (.pure ?_)))
  refine Keeps.bind (.foldlM (fun progress names _ => keeps_takeIn m p root progress names) _) (fun progress => ?_)
    w start
  exact .bind (Work.keeps_report _ _) fun _ => .pure _

theorem keeps_materializeArchive {base : Disk.Route} {before : Disk} {directory : List Char}
    (opened : Archive.Opened base before directory) (data : Bytes) :
    Keeps (m.materializeArchive data p directory) fun w => Disk.Grown base before w.disk :=
  .bind (Work.keeps_within (Archive.keeps_unpack opened data)) fun root => keeps_materialize m p root

end Materializer

namespace CommandLine

open Console (Line)
open Disk (Route)

/-- What stops the manifest of a rendering from being made. -/
inductive RenderFault
  /-- The parameters cannot be those of a project. -/
  | parameters (fault : Project.ParameterFault)
  /-- The archive cannot be read. -/
  | archive (fault : Disk.Fault)
  /-- The archive cannot be made into a manifest. -/
  | materialize (fault : MaterializeFault)

namespace RenderFault

/-- The wording of what stops a manifest. -/
def message : RenderFault → String
  | parameters fault => fault.message
  | archive fault => fault.message
  | materialize fault => fault.message

/-- The failure that ends the command as it is, if it is one. -/
def stray? : RenderFault → Option Fault
  | materialize fault => if fault.escapes then some (.materialize fault) else none
  | _ => none

end RenderFault

/-- Makes the manifest of an archive that is read from the disk. -/
def gather (directory : List Char) (settings : TemplateSettings) (archive : List Char)
    (parameters : Project.Parameters) : Work RenderFault Manifest := do
  match (← Work.disk).read archive with
  | .error fault => throw (.archive fault)
  | .ok data => Work.within .materialize (({ settings } : Materializer).materializeArchive data parameters directory)

/-- Makes the manifest of a rendering. -/
def prepare (directory : List Char) (settings : TemplateSettings) (archive name : String) (port : Int) :
    Work RenderFault Manifest :=
  match Project.Parameters.of name port with
  | .error fault => throw (.parameters fault)
  | .ok parameters => gather directory settings (Disk.tidy archive.toList) parameters

theorem keeps_prepare {base : Route} {before : Disk} {directory : List Char}
    (opened : Archive.Opened base before directory) (settings : TemplateSettings) (archive name : String) (port : Int) :
    Keeps (prepare directory settings archive name port) fun w => Disk.Grown base before w.disk := by
  unfold prepare
  split
  · exact .throw _
  · intro w start
    refine .bind (.bind (.get (.pure ?_)))
    split
    · exact .throw start
    · exact Work.keeps_within (Materializer.keeps_materializeArchive _ _ opened _) w start

/-! ## Running the command -/

section Lines

/-- What is printed for a message behind a sign. -/
def signed (color sign message : String) : Except Console.MarkupFault (List Line) :=
  Console.printed ("[" ++ color ++ "]" ++ sign ++ "[/" ++ color ++ "] " ++
    String.ofList (Console.escape message.toList))

/-- The lines that say what went wrong. -/
def errorLines (message : String) : List Line :=
  (signed "red" "✗" ("Error: " ++ message)).toOption.getD []

/-- A sign of one character in a color is printed in front of any message. -/
theorem exists_signed {color sign : String} (isStyle : Console.IsStyle color.toList) {c : Char}
    (spelled : sign.toList = [c]) (free : c ≠ '[' ∧ c ≠ '\\') (message : String) :
    ∃ lines, signed color sign message = .ok lines := by
  refine Console.exists_printed_signed isStyle (fun d known => ?_) message.toList
  rw [spelled, List.mem_singleton] at known
  exact known ▸ free

theorem signed_error (message : String) : signed "red" "✗" ("Error: " ++ message) = .ok (errorLines message) := by
  have spelled : "✗".toList = ['✗'] := by decide
  obtain ⟨lines, printed⟩ := exists_signed Console.isStyle_colors.2.1 spelled (by decide) ("Error: " ++ message)
  rw [errorLines, printed]
  rfl

end Lines

section Running

variable {σ : Type}

theorem run_work {ε α : Type} (part : Work ε α) (state : RunState σ) :
    (Run.work part).run state =
      (.ok (part.run state.workspace).1, { state with workspace := (part.run state.workspace).2 }) :=
  rfl

theorem run_printSigned {color sign message : String} {lines : List Line}
    (printed : signed color sign message = .ok lines) (state : RunState σ) :
    (Run.printSigned color sign message).run state = (.ok (), { state with lines := state.lines ++ lines }) := by
  rw [signed] at printed
  rw [Run.printSigned, printed]
  rfl

theorem run_fail {α : Type} (message : String) (state : RunState σ) :
    (Run.fail message : Run σ α).run state =
      (.error (.exit 1), { state with lines := state.lines ++ errorLines message }) := by
  rw [Run.fail, Run.refuse, run_bind, Run.printError, run_printSigned (signed_error message)]
  rfl

/-- How a rendering ends that gets no manifest. -/
def giveUp {α : Type} (fault : RenderFault) (state : RunState σ) : Except Stop α × RunState σ :=
  match fault.stray? with
  | some stray => (.error (.fault stray), state)
  | none => (.error (.exit 1), { state with lines := state.lines ++ errorLines fault.message })

/-- What a rendering does with its manifest. -/
def conclude (directory : List Char) (manifest : Manifest) : Run σ Unit := do
  if manifest.size = 0 then
    Run.printWarning "Template archive produced no files"
  Run.change (Run.writeManifest directory manifest)
  Run.printSuccess ("Wrote " ++ Data.decimal manifest.size ++ " files to " ++ String.ofList directory)

/-- A step that ends a run keeps what follows from being done. -/
theorem run_bind_eq_of_error {α β : Type} {step : Run σ α} {next : α → Run σ β} {state t : RunState σ} {stop : Stop}
    (ends : step.run state = (.error stop, t)) : (step >>= next).run state = (.error stop, t) := by
  rw [run_bind, ends]

theorem run_bind_eq_of_ok {α β : Type} {step : Run σ α} {next : α → Run σ β} {state t : RunState σ} {a : α}
    (ends : step.run state = (.ok a, t)) : (step >>= next).run state = (next a).run t := by
  rw [run_bind, ends]

theorem run_materialize (around : Surroundings σ) (settings : TemplateSettings) (archive : List Char)
    (parameters : Project.Parameters) (state : RunState σ) :
    (Run.materialize around settings archive parameters).run state =
      match (gather around.directory settings archive parameters).run state.workspace with
      | (.ok manifest, t) => (.ok manifest, { state with workspace := t })
      | (.error fault, t) => giveUp fault { state with workspace := t } := by
  have state' : (get : Run σ (RunState σ)).run state = (.ok state, state) := rfl
  have disk : (Work.disk : Work RenderFault Disk).run state.workspace =
      (.ok state.workspace.disk, state.workspace) := rfl
  rw [Run.materialize, run_bind_eq_of_ok state', gather, run_bind, disk]
  simp only
  cases state.workspace.disk.read archive with
  | error fault => exact run_fail _ _
  | ok data =>
      rw [run_bind_eq_of_ok (run_work _ _)]
      simp only
      rw [Work.run_within]
      rcases (({ settings } : Materializer).materializeArchive data parameters around.directory).run
        state.workspace with ⟨fault | manifest, t⟩
      · change (Run.failMaterialize fault).run { state with workspace := t } =
          giveUp (.materialize fault) { state with workspace := t }
        simp only [Run.failMaterialize, giveUp, RenderFault.stray?]
        split
        · rfl
        · exact run_fail _ _
      · rfl

theorem run_loadSettings {around : Surroundings σ} {config : Option String} (state : RunState σ)
    {loaded : Configuration.Loaded} {w : Workspace}
    (loads : (Configuration.load around.environment config).run state.workspace = (.ok loaded, w)) :
    (Run.loadSettings around config).run state = (.ok loaded.settings, { state with workspace := w }) := by
  rw [Run.loadSettings, run_bind, run_work, loads]
  rfl

/-- What a rendering does with its manifest: it writes the files, or names them. -/
def giveOut (name : String) (output : Option String) (manifest : Manifest) : Run σ Unit := do
  if manifest.size = 0 then
    Run.printWarning "Template archive produced no files"
  match output with
  | some output =>
    let directory := Disk.tidy output.toList
    Run.change (Run.writeManifest directory manifest)
    Run.printSuccess ("Wrote " ++ Data.decimal manifest.size ++ " files to " ++ String.ofList directory)
  | none => Run.printShown (Run.manifestTable name manifest).lines

theorem run_render_prepared (around : Surroundings σ) (archive name : String) (output : Option String) (port : Int)
    {shared : Shared} {start : RunState σ} {loaded : Configuration.Loaded} {w : Workspace}
    (loads : (Configuration.load around.environment shared.config).run start.workspace = (.ok loaded, w)) :
    (Run.render around archive name port output shared).run start =
      match (prepare around.directory loaded.settings.template archive name port).run w with
      | (.error fault, t) =>
        giveUp fault { start with journal := start.journal.setVerbosity shared.verbose, workspace := t }
      | (.ok manifest, t) => (giveOut name output manifest).run
          { start with journal := start.journal.setVerbosity shared.verbose, workspace := t } := by
  have verbose : (Run.setVerbosity shared.verbose : Run σ Unit).run start =
      (.ok (), { start with journal := start.journal.setVerbosity shared.verbose }) := rfl
  have settled := run_loadSettings { start with journal := start.journal.setVerbosity shared.verbose } loads
  rw [Run.render, run_bind_eq_of_ok verbose, run_bind_eq_of_ok settled, prepare]
  cases Project.Parameters.of name port with
  | error fault => exact run_bind_eq_of_error (run_fail _ _)
  | ok parameters =>
      rw [run_bind_eq_of_ok (run_pure _ _), run_bind, run_materialize]
      simp only
      rcases (gather around.directory loaded.settings.template (Disk.tidy archive.toList) parameters).run w with
        ⟨fault | manifest, t⟩
      · simp only [giveUp]
        cases fault.stray? <;> rfl
      · rfl

theorem run_render (around : Surroundings σ) (archive name output : String) (port : Int) {shared : Shared}
    {start : RunState σ} {loaded : Configuration.Loaded} {w : Workspace}
    (loads : (Configuration.load around.environment shared.config).run start.workspace = (.ok loaded, w)) :
    (Run.render around archive name port (some output) shared).run start =
      match (prepare around.directory loaded.settings.template archive name port).run w with
      | (.error fault, t) =>
        giveUp fault { start with journal := start.journal.setVerbosity shared.verbose, workspace := t }
      | (.ok manifest, t) => (conclude (Disk.tidy output.toList) manifest).run
          { start with journal := start.journal.setVerbosity shared.verbose, workspace := t } :=
  run_render_prepared around archive name (some output) port loads

theorem size_pos_of_stopped {directory : List Char} {manifest : Manifest} {d t : Disk} {fault : Disk.Fault}
    (stopped : (Run.writeManifest directory manifest).run d = (.error fault, t)) : manifest.size ≠ 0 := by
  intro none
  have nothing : manifest.entries = [] := List.length_eq_zero_iff.mp none
  rw [Run.writeManifest, nothing] at stopped
  cases stopped

theorem run_change {α : Type} (operation : Disk.Change α) (state : RunState σ) :
    (Run.change operation).run state =
      match operation.run state.workspace.disk with
      | (.ok a, d) => (.ok a, { state with workspace := { state.workspace with disk := d } })
      | (.error fault, d) =>
        (.error (.fault (.disk fault)), { state with workspace := { state.workspace with disk := d } }) := by
  rw [Run.change, run_bind, run_work]
  have changed : (Work.change id operation).run state.workspace =
      ((operation.run state.workspace.disk).1,
        { state.workspace with disk := (operation.run state.workspace.disk).2 }) := by
    have got : (get : Work Disk.Fault Workspace).run state.workspace = (.ok state.workspace, state.workspace) := rfl
    rw [Work.change, run_bind, got]
    rcases ran : operation.run state.workspace.disk with ⟨fault | a, d⟩ <;> simp only [ran] <;> rfl
  rw [changed]
  rcases operation.run state.workspace.disk with ⟨fault | a, d⟩ <;> rfl

/-- Where nothing stops the writing, a rendering comes to its end. -/
theorem run_conclude_of_ok {directory : List Char} {manifest : Manifest} (state : RunState σ) {d : Disk}
    (wrote : (Run.writeManifest directory manifest).run state.workspace.disk = (.ok (), d)) :
    ∃ after, (conclude directory manifest).run state = (.ok (), after) ∧ after.workspace.disk = d ∧
      after.journal = state.journal := by
  have check : "✓".toList = ['✓'] := by decide
  have warn : "⚠".toList = ['⚠'] := by decide
  obtain ⟨said, success⟩ := exists_signed Console.isStyle_colors.1 check (by decide)
    ("Wrote " ++ Data.decimal manifest.size ++ " files to " ++ String.ofList directory)
  obtain ⟨warned, warning⟩ := exists_signed Console.isStyle_colors.2.2 warn (by decide)
    "Template archive produced no files"
  have ends (lines : List Line) : (Run.change (Run.writeManifest directory manifest) >>= fun _ =>
      Run.printSuccess ("Wrote " ++ Data.decimal manifest.size ++ " files to " ++ String.ofList directory)).run
        { state with lines } =
          (.ok (), { state with workspace := { state.workspace with disk := d }, lines := lines ++ said }) := by
    rw [run_bind, run_change]
    simp only [wrote]
    exact run_printSigned success _
  rw [conclude]
  split
  · refine ⟨_, run_bind_eq_of_ok (run_printSigned warning state) |>.trans (ends _), rfl, rfl⟩
  · exact ⟨_, ends state.lines, rfl, rfl⟩

/-- What stops the writing ends a rendering as it is, and nothing is printed. -/
theorem run_conclude_of_error {directory : List Char} {manifest : Manifest} (state : RunState σ) {d : Disk}
    {fault : Disk.Fault}
    (stopped : (Run.writeManifest directory manifest).run state.workspace.disk = (.error fault, d)) :
    (conclude directory manifest).run state =
      (.error (.fault (.disk fault)), { state with workspace := { state.workspace with disk := d } }) := by
  rw [conclude, if_neg (size_pos_of_stopped stopped)]
  refine run_bind_eq_of_error ?_
  rw [run_change, stopped]

/-- Records without a file of their own change nothing on the disk. -/
theorem writeRecords_eq_self (around : Surroundings σ) {state : RunState σ} (unfiled : state.journal.file = none) :
    Outcome.writeRecords around state = state := by
  have nothing (entries : List Log.Entry) (d : Disk) : ((entries.forM fun entry =>
      state.journal.record around.time Log.rootName entry : Disk.Change Unit).run d).2 = d := by
    have all : Ensures (entries.forM fun entry => state.journal.record around.time Log.rootName entry) d
        (fun _ t => t = d) fun _ t => t = d :=
      .forM (fun entry _ => Log.Journal.keeps_record_unfiled unfiled around.time Log.rootName entry) rfl
    obtain ⟨_, t, ran, same⟩ | ⟨_, t, ran, same⟩ := all.outcome
    · rw [ran, same]
    · rw [ran, same]
  rw [Outcome.writeRecords]
  simp only [nothing]

end Running

end CommandLine

end Stencil
