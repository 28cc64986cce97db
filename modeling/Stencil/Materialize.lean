import Stencil.Archive.Unpack
import Stencil.Classification
import Stencil.Manifest
import Stencil.Project.Rename
import Stencil.Template.Render
import Stencil.Text.Base64

/-!
# Materialization

A template tree becomes the manifest of a new project: every file below the root is renamed, classified by
its new path, and rendered, copied or stored as bytes.  The first file that cannot be taken in stops the
work.
-/

namespace Stencil

/-- Why a template does not become a manifest. -/
inductive MaterializeFault
  /-- The archive of the template is not unpacked. -/
  | archive (fault : Archive.UnpackFault)
  /-- A file is not read. -/
  | read (path : List Char) (reason : String)
  /-- A file is not rendered; `path` is its new path. -/
  | template (path : String) (fault : Template.RenderFault)
  /-- A file is not taken into the manifest. -/
  | manifest (fault : ManifestFault)

namespace MaterializeFault

/-- The wording of a failure. -/
def message : MaterializeFault → String
  | archive fault => fault.message
  | read path reason => "Cannot read " ++ String.ofList path ++ ": " ++ reason
  | template path fault =>
    if fault.escapes then fault.message else Template.located path fault.message
  | manifest fault => fault.message

/-- Whether a failure is not the fault of the template. -/
def escapes : MaterializeFault → Bool
  | archive fault => fault.escapes
  | template _ fault => fault.escapes
  | _ => false

end MaterializeFault

/-- What turns templates into manifests. -/
structure Materializer where
  /-- How templates are treated. -/
  settings : TemplateSettings := {}
  /-- The functions that templates may call. -/
  functions : List Template.Function := Template.functionTable []

namespace Materializer

/-- Why bytes are no text, with what can be done about it. -/
def undecodable (fault : Text.Utf8.Fault) : String :=
  "not valid UTF-8 (" ++ fault.reason.message ++ " at byte " ++ toString fault.start ++
    "); add its extension to base64_extensions"

/-- A fault of a page shows the page to those who look for faults. -/
def reportPage (path : String) : Template.RenderFault → Work MaterializeFault Unit
  | .page fault page =>
    if fault.isNumeric then pure ()
    else Work.report .debug ("Jinja source for " ++ path ++ ":\n" ++ String.ofList page.source)
  | _ => pure ()

/-- The text of a file of a template. -/
def renderFile (m : Materializer) (p : Project.Parameters) (path : String) (text : List Char) :
    Work MaterializeFault (List Char) := do
  Work.report .debug ("Rendering " ++ path)
  match Template.render m.functions p text with
  | .ok rendered => pure rendered
  | .error fault => do
    reportPage path fault
    throw (.template path fault)

/-- The file of the new project for a file of the template. -/
def makeFile (m : Materializer) (p : Project.Parameters) (source : List Char) (path : String)
    (c : Classification) : Work MaterializeFault ProjectFile := do
  match (← Work.disk).read source with
  | .error fault => throw (.read source fault.cause.message)
  | .ok bytes =>
    let file (content : List Char) (encoding : Encoding) : ProjectFile :=
      ⟨path, String.ofList content, encoding, some (String.ofList source)⟩
    match c with
    | .base64 => return file (Text.Base64.encode bytes) .base64
    | .text =>
      match Text.Utf8.decode bytes with
      | .error fault => throw (.read source (undecodable fault))
      | .ok text => return file text .text
    | .template =>
      match Text.Utf8.decode bytes with
      | .error fault => throw (.read source (undecodable fault))
      | .ok text => return file (← m.renderFile p path text) .text

/-- What has been gathered from a tree so far. -/
structure Progress where
  /-- The files. -/
  builder : ManifestBuilder
  /-- How many files there were of each class. -/
  classes : List Classification := []

/-- The number of files of a class. -/
def Progress.count (progress : Progress) (c : Classification) : Nat :=
  progress.classes.count c

/-- Takes in what is at one path below the root; directories give nothing. -/
def takeIn (m : Materializer) (p : Project.Parameters) (root : List Char) (progress : Progress)
    (names : Disk.Route) : Work MaterializeFault Progress := do
  let source := Disk.below root names
  if (← Work.disk).isDirectoryAt source matches .ok true then return progress
  else
    let path := Project.renamePath p.name (String.ofList (Disk.joinWith '/' names))
    let c := (Classifier.ofSettings m.settings).classify path
    let file ← m.makeFile p source path c
    match progress.builder.add file with
    | .error fault => throw (.manifest fault)
    | .ok (builder, log) =>
      log.forM fun entry => Work.report entry.level entry.message
      return ⟨builder, c :: progress.classes⟩

/-- The names that lead from a root to everything below it, ascending name by name. -/
def namesUnder (disk : Disk) (root : List Char) : List Disk.Route :=
  match disk.locate true root with
  | .ok ⟨place, some (.directory _)⟩ => disk.namesBelow place
  | _ => []

/-- The line that says what became of a tree. -/
def summary (p : Project.Parameters) (manifest : Manifest) (progress : Progress) : String :=
  "Materialized " ++ toString manifest.size ++ " files for " ++ p.name ++ " (" ++
    toString (progress.count .template) ++ " rendered, " ++ toString (progress.count .text) ++ " copied, " ++
    toString (progress.count .base64) ++ " binary)"

/-- The manifest of a project made from the tree below a root. -/
def materialize (m : Materializer) (root : List Char) (p : Project.Parameters) :
    Work MaterializeFault Manifest := do
  let names := namesUnder (← Work.disk) root
  let progress ← names.foldlM (m.takeIn p root) ⟨{ allowCollisions := m.settings.allowCollisions }, []⟩
  let manifest := progress.builder.build.1
  Work.report .info (summary p manifest progress)
  return manifest

/-- The manifest of a project made from a compressed archive that is unpacked below a directory. -/
def materializeArchive (m : Materializer) (data : Bytes) (p : Project.Parameters) (directory : List Char) :
    Work MaterializeFault Manifest := do
  let root ← Work.within .archive (Archive.unpack data directory)
  m.materialize root p

end Materializer

end Stencil
