import Stencil.CommandLine.Command
import Stencil.Configuration
import Stencil.Console.Table
import Stencil.Data.Json.Writer
import Stencil.Gitlab.Calls
import Stencil.Log.Journal
import Stencil.Provision

/-!
# Running commands

A command prints lines and ends with a code.  Failures that a user can do something about are printed, with
one as the code; every other failure ends the command as it is.
-/

namespace Stencil.CommandLine

open Console (Line MarkupFault Table)
open Data (Value)

/-- The version of the program. -/
def version : String := "0.1.0"

/-- How the program is used. -/
def usage : List String :=
  ["Usage: glfast [--version] [--help] COMMAND [ARGS]...",
    "  list [--json]                                   Browse templates",
    "  use TEMPLATE -n NAME -g GROUP [-p PORT] [-d TEXT] [--log-file PATH]",
    "                                                  Create a project from a template",
    "  render ARCHIVE -n NAME [-p PORT] [-o PATH]      Preview an archive offline",
    "Every command takes --config PATH, --verbose and --help."]

/-- A failure that ends a command as it is. -/
inductive Fault
  /-- The configuration cannot be read. -/
  | configuration (fault : Configuration.Fault)
  /-- An answer of the host is not as it should be. -/
  | host (fault : Gitlab.Fault)
  /-- A template fails in a way that is not its own fault. -/
  | materialize (fault : MaterializeFault)
  /-- Something on the disk is in the way. -/
  | disk (fault : Disk.Fault)
  /-- Marks in a text to be shown do not fit together. -/
  | markup (fault : MarkupFault)
  /-- Names that have no order. -/
  | unordered (later earlier : Value)
  /-- A value that cannot be shown in a table. -/
  | unprintable (v : Value)

/-- The wording of such a failure. -/
def Fault.message : Fault → String
  | configuration fault => fault.message
  | host fault => fault.message
  | materialize fault => fault.message
  | disk fault => fault.message
  | markup fault => fault.message
  | unordered later earlier =>
    "'<' not supported between instances of " ++ Text.quotedString later.kindName ++ " and " ++
      Text.quotedString earlier.kindName
  | unprintable v => "unable to render " ++ v.kindName ++ "; a string or other renderable object is required"

/-- Why a command ends before its end. -/
inductive Stop
  /-- It was said what is wrong. -/
  | exit (code : Nat)
  /-- A failure ends it. -/
  | fault (fault : Fault)

/-- What a command has around it. -/
structure Surroundings (σ : Type) where
  /-- Whoever runs it. -/
  environment : Environment
  /-- The way to the host. -/
  transport : Http.Transport σ Gitlab.Fault
  /-- The directory where archives are unpacked. -/
  directory : List Char
  /-- Where records go unless a file is named. -/
  places : Log.JournalPlaces
  /-- The time as it stands in the file of records. -/
  time : String

/-- What a command works with. -/
structure RunState (σ : Type) where
  /-- The disk, and the records made. -/
  workspace : Workspace
  /-- The network, and the requests sent. -/
  session : Gitlab.Session σ
  /-- Where records go. -/
  journal : Log.Journal := {}
  /-- How many records were made before their file was opened. -/
  unwritten : Nat := 0
  /-- The lines printed. -/
  lines : List Line := []

/-- What a command does. -/
abbrev Run (σ : Type) := ExceptT Stop (StateM (RunState σ))

namespace Run

variable {σ : Type}

/-- Prints lines. -/
def printLines (lines : List Line) : Run σ Unit :=
  modify fun state => { state with lines := state.lines ++ lines }

/-- Prints what can be shown. -/
def printShown (lines : Except MarkupFault (List Line)) : Run σ Unit :=
  match lines with
  | .ok lines => printLines lines
  | .error fault => throw (.fault (.markup fault))

/-- Prints a message behind a sign in a color. -/
def printSigned (color sign message : String) : Run σ Unit :=
  printShown (Console.printed ("[" ++ color ++ "]" ++ sign ++ "[/" ++ color ++ "] " ++
    String.ofList (Console.escape message.toList)))

/-- Prints that something was done. -/
def printSuccess (message : String) : Run σ Unit := printSigned "green" "✓" message

/-- Prints that something went wrong. -/
def printError (message : String) : Run σ Unit := printSigned "red" "✗" message

/-- Prints that something is odd. -/
def printWarning (message : String) : Run σ Unit := printSigned "yellow" "⚠" message

/-- Prints what one should know. -/
def printInfo (message : String) : Run σ Unit := printSigned "cyan" "ℹ" message

/-- Prints what went wrong, and ends the command. -/
def refuse {α : Type} (message : String) : Run σ α := do
  printError message
  throw (.exit 1)

/-- Ends the command with the failure of a part of it. -/
def fail {α : Type} (message : String) : Run σ α :=
  refuse ("Error: " ++ message)

/-- Does work, and gives its outcome. -/
def work {ε α : Type} (part : Work ε α) : Run σ (Except ε α) := do
  let state ← get
  let (outcome, workspace) := part.run state.workspace
  set { state with workspace }
  return outcome

/-- Does something to the disk; what is in the way ends the command. -/
def change {α : Type} (operation : Disk.Change α) : Run σ α := do
  match ← work (Work.change id operation) with
  | .ok a => return a
  | .error fault => throw (.fault (.disk fault))

/-- Sets whether details are recorded. -/
def setVerbosity (verbose : Bool) : Run σ Unit :=
  modify fun state => { state with journal := state.journal.setVerbosity verbose }

/-- Sends records to a file from now on. -/
def openJournal (around : Surroundings σ) (path : String) (verbose : Bool) : Run σ Unit := do
  let journal := (← get).journal
  let (_, entries, opened) ←
    change (journal.openFile Disk.ensureDirectories around.places around.time (some path) verbose)
  modify fun state =>
    let log := state.workspace.log ++ entries
    { state with
      workspace := { state.workspace with log }
      journal := opened
      unwritten := log.length }

/-- The settings of a run. -/
def loadSettings (around : Surroundings σ) (config : Option String) : Run σ Settings := do
  match ← work (Configuration.load around.environment config) with
  | .ok loaded => return loaded.settings
  | .error fault => if fault.isExpected then refuse fault.message else throw (.fault (.configuration fault))

/-- What fills projects, as the settings ask for it; the host wants a token. -/
def provisioner (around : Surroundings σ) (settings : Settings) :
    Run σ (Provisioner (Gitlab.Session σ) Gitlab.Fault) := do
  if (settings.host.token.filter (· ≠ "")).isNone then
    refuse "A GitLab token is required: set gitlab.token in the config or GL_TOKEN"
  else
    match Gitlab.Client.ofSettings settings.host Gitlab.downloadPolicy around.transport with
    | .ok client => return { host := client.host, settings := settings.template, directory := around.directory }
    | .error fault => fail fault.message

/-- Does something with the host, and gives its outcome. -/
def provisioning {α : Type} (part : Provisioning (Gitlab.Session σ) Gitlab.Fault α) :
    Run σ (Except (ProvisionFault Gitlab.Fault) α) := do
  let state ← get
  let (outcome, after) := part.run { host := state.session, workspace := state.workspace }
  set { state with session := after.host, workspace := after.workspace }
  return outcome

/-- Ends the command because a template was not materialized. -/
def failMaterialize {α : Type} (fault : MaterializeFault) : Run σ α :=
  if fault.escapes then throw (.fault (.materialize fault)) else fail fault.message

/-- Ends the command because a run with the host failed. -/
def failProvision {α : Type} (fault : ProvisionFault Gitlab.Fault) : Run σ α :=
  match fault with
  | .parameters _ => fail (fault.message Gitlab.Fault.message)
  | .projectExists _ => fail (fault.message Gitlab.Fault.message)
  | .host (.refused message status) => fail (Gitlab.Fault.refused message status).message
  | .host (.unreadable text cause) => fail (Gitlab.Fault.unreadable text cause).message
  | .host failure => throw (.fault (.host failure))
  | .materialize fault => failMaterialize fault

/-- The first two neighbours that have no order. -/
def unordered? : List Value → Option (Value × Value)
  | .text _ :: .text b :: rest => unordered? (.text b :: rest)
  | a :: b :: rest => if a.number?.isSome && b.number?.isSome then unordered? (b :: rest) else some (b, a)
  | _ => none

/-- Projects in the order of their names. -/
def sorted (projects : List (Value × Value)) : Run σ (List (Value × Value)) :=
  match unordered? (projects.map (·.1)) with
  | some (later, earlier) => throw (.fault (.unordered later earlier))
  | none => return projects.mergeSort fun a b => a.1.display ≤ b.1.display

/-- A value as the text of a cell. -/
def cell : Value → Run σ String
  | .text s => return s
  | .null => return ""
  | v => throw (.fault (.unprintable v))

/-- Lists the templates. -/
def list (around : Surroundings σ) (asData : Bool) (shared : Shared) : Run σ Unit := do
  setVerbosity shared.verbose
  let settings ← loadSettings around shared.config
  let p ← provisioner around settings
  match ← provisioning p.listTemplates with
  | .error (.host (.refused message status)) => fail (Gitlab.Fault.refused message status).message
  | .error (.host failure) => throw (.fault (.host failure))
  | .error fault => failProvision fault
  | .ok templates =>
    if asData then printLines ((Data.Json.indented (.mapping templates)).map .text)
    else if templates.isEmpty then
      printInfo ("No templates found in group '" ++ settings.template.group ++ "'")
    else
      let rows ← (← sorted templates).mapM fun (name, description) =>
        return [← cell name, ← cell description]
      printShown (Table.lines ⟨"Templates in " ++ settings.template.group, ["Template", "Description"], rows⟩)

/-- The line that says what a new project has. -/
def resultLine (result : Provisioned) : String :=
  "[dim]" ++ Data.decimal result.fileCount ++ " files committed, " ++ Data.decimal result.variableCount ++
    " variables copied, " ++ Data.decimal result.runnerCount ++ " runners enabled, default branch '" ++
    result.defaultBranch ++ "'[/dim]"

/-- Makes a project from a template. -/
def use (around : Surroundings σ) (order : ProjectOrder) (logFile : Option String) (shared : Shared) :
    Run σ Unit := do
  setVerbosity shared.verbose
  match logFile.filter (· ≠ "") with
  | some path => openJournal around path shared.verbose
  | none => pure ()
  let settings ← loadSettings around shared.config
  let p ← provisioner around settings
  match ← provisioning (p.provision order) with
  | .error fault => failProvision fault
  | .ok result =>
    printSuccess ("Created " ++ result.projectPath ++ " from " ++ result.templatePath)
    printShown (Console.printed (resultLine result))

/-- The bytes of a file of a new project. -/
def fileBytes (file : ProjectFile) : Bytes :=
  match file.encoding with
  | .text => Text.Utf8.encode file.content.toList
  | .base64 => Text.Base64.decode file.content.toList

/-- Writes the files of a manifest below a directory. -/
def writeManifest (output : List Char) (manifest : Manifest) : Disk.Change Unit :=
  manifest.entries.forM fun (path, file) => do
    let target := Disk.join output path.toList
    Disk.ensureDirectories (Disk.parent target)
    Disk.writeFile target (fileBytes file)

/-- The table of a manifest. -/
def manifestTable (name : String) (manifest : Manifest) : Table :=
  ⟨Data.decimal manifest.size ++ " files for " ++ name, ["Path", "Encoding", "Size"],
    manifest.entries.map fun (path, file) => [path, file.encoding.name, Data.decimal file.content.length]⟩

/-- The manifest that an archive gives. -/
def materialize (around : Surroundings σ) (settings : TemplateSettings) (archive : List Char)
    (parameters : Project.Parameters) : Run σ Manifest := do
  match (← get).workspace.disk.read archive with
  | .error fault => fail fault.message
  | .ok data =>
    let m : Materializer := { settings }
    match ← work (m.materializeArchive data parameters around.directory) with
    | .ok manifest => return manifest
    | .error fault => failMaterialize fault

/-- Makes files from an archive, and writes or names them. -/
def render (around : Surroundings σ) (archive name : String) (port : Int) (output : Option String)
    (shared : Shared) : Run σ Unit := do
  setVerbosity shared.verbose
  let settings ← loadSettings around shared.config
  let parameters ← match Project.Parameters.of name port with
    | .ok parameters => pure parameters
    | .error fault => fail fault.message
  let manifest ← materialize around settings.template (Disk.tidy archive.toList) parameters
  if manifest.size = 0 then
    printWarning "Template archive produced no files"
  match output with
  | some output =>
    let directory := Disk.tidy output.toList
    change (writeManifest directory manifest)
    printSuccess ("Wrote " ++ Data.decimal manifest.size ++ " files to " ++ String.ofList directory)
  | none => printShown (manifestTable name manifest).lines

/-- What a command does. -/
def ofCommand (around : Surroundings σ) : Command → Run σ Unit
  | .version => printLines [.text ("glfast " ++ version)]
  | .help => printLines (usage.map .text)
  | .list asData shared => list around asData shared
  | .use template name group port description logFile shared =>
    use around ⟨template, .text name, group, .int port, description⟩ logFile shared
  | .render archive name port output shared => render around archive name port output shared

end Run

/-- What a command leaves. -/
structure Outcome (σ : Type) where
  /-- The code that it ends with. -/
  code : Nat
  /-- What is wrong with the arguments. -/
  usage : Option UsageFault := none
  /-- The failure that ended it. -/
  fault : Option Fault := none
  /-- What it worked with. -/
  state : RunState σ

namespace Outcome

variable {σ : Type}

/-- The code of a command that is refused as it is written. -/
def usageCode : Nat := 2

/-- The records of a run that were made since their file was opened, written into it. -/
def writeRecords (around : Surroundings σ) (state : RunState σ) : RunState σ :=
  let entries := state.workspace.log.drop state.unwritten
  let write : Disk.Change Unit := entries.forM fun entry =>
    state.journal.record around.time Log.rootName entry
  { state with workspace := { state.workspace with disk := (write.run state.workspace.disk).2 } }

/-- Runs the command that arguments ask for. -/
def ofArguments (around : Surroundings σ) (arguments : List String) (start : RunState σ) : Outcome σ :=
  match Command.read start.workspace.disk arguments with
  | .error fault => { code := usageCode, usage := some fault, state := start }
  | .ok command =>
    let (outcome, after) := (Run.ofCommand around command).run start
    let state := writeRecords around after
    match outcome with
    | .ok () => { code := 0, state }
    | .error (.exit code) => { code, state }
    | .error (.fault fault) => { code := 1, fault := some fault, state }

/-- The records of a run that reach its level. -/
def log (outcome : Outcome σ) : List Log.Entry :=
  Log.visible outcome.state.journal.verbose outcome.state.workspace.log

end Outcome

end Stencil.CommandLine
