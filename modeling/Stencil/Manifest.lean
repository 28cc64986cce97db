import Stencil.Data.Value
import Stencil.Log
import Stencil.Text.Quoted

/-!
# Manifests

The files of a new project, in the order of their paths, ready for one commit.  A builder gathers them and
refuses a second file of the same path unless collisions are allowed.
-/

namespace Stencil

/-- How the content of a file is to be read. -/
inductive Encoding
  /-- As text. -/
  | text
  /-- As the base-64 form of bytes. -/
  | base64
deriving DecidableEq, Repr

namespace Encoding

/-- The name of an encoding. -/
def name : Encoding → String
  | text => "text"
  | base64 => "base64"

/-- The encoding of a name. -/
def ofName? : String → Option Encoding
  | "text" => some text
  | "base64" => some base64
  | _ => none

end Encoding

/-- A file of a new project. -/
structure ProjectFile where
  /-- The path in the repository. -/
  path : String
  /-- The content. -/
  content : String
  /-- How the content is to be read. -/
  encoding : Encoding := .text
  /-- Where the file was made from. -/
  source : Option String := none
deriving DecidableEq, Repr

/-- One step of a commit. -/
structure CommitAction where
  /-- What is done. -/
  action : String
  /-- The path of the file. -/
  path : String
  /-- The content of the file. -/
  content : String
  /-- How the content is to be read. -/
  encoding : Encoding
deriving DecidableEq, Repr

/-- A step as data. -/
def CommitAction.toValue (action : CommitAction) : Data.Value :=
  .mapping [(.text "action", .text action.action), (.text "file_path", .text action.path),
    (.text "content", .text action.content), (.text "encoding", .text action.encoding.name)]

/-- The step that does something with a file. -/
def ProjectFile.toAction (file : ProjectFile) (action : String := "create") : CommitAction :=
  ⟨action, file.path, file.content, file.encoding⟩

/-- Files under their paths, the paths ascending. -/
structure Manifest where
  /-- The files with their paths. -/
  entries : List (String × ProjectFile)
deriving DecidableEq, Repr

namespace Manifest

/-- Puts a file under a path in its place; a file that is there already is replaced. -/
def insertSorted (path : String) (file : ProjectFile) :
    List (String × ProjectFile) → List (String × ProjectFile)
  | [] => [(path, file)]
  | entry :: rest =>
    if path < entry.1 then (path, file) :: entry :: rest
    else if path = entry.1 then (path, file) :: rest
    else entry :: insertSorted path file rest

/-- The manifest of files given one after the other. -/
def ofEntries (entries : List (String × ProjectFile)) : Manifest :=
  ⟨entries.foldl (fun sorted entry => insertSorted entry.1 entry.2 sorted) []⟩

/-- The paths. -/
def paths (m : Manifest) : List String :=
  m.entries.map (·.1)

/-- The files. -/
def files (m : Manifest) : List ProjectFile :=
  m.entries.map (·.2)

/-- The number of files. -/
def size (m : Manifest) : Nat :=
  m.entries.length

/-- The file under a path. -/
def get? (m : Manifest) (path : String) : Option ProjectFile :=
  (m.entries.find? (·.1 = path)).map (·.2)

/-- Whether there is a file under a path. -/
def contains (m : Manifest) (path : String) : Bool :=
  (m.get? path).isSome

/-- The steps of the commit. -/
def toActions (m : Manifest) (action : String := "create") : List CommitAction :=
  m.files.map (·.toAction action)

/-- The steps of the commit as data. -/
def toValue (m : Manifest) (action : String := "create") : Data.Value :=
  .list ((m.toActions action).map (·.toValue))

/-- A manifest in a message. -/
def form (m : Manifest) : String :=
  "Manifest(" ++ toString m.size ++ " files)"

end Manifest

/-- Why a file is not taken into a manifest. -/
inductive ManifestFault
  /-- Another file has its path; both are named by where they were made from. -/
  | collision (path first second : String)
  /-- The manifest is finished. -/
  | closed
deriving DecidableEq, Repr

/-- The wording of a refusal. -/
def ManifestFault.message : ManifestFault → String
  | .collision path first second =>
    "'" ++ first ++ "' and '" ++ second ++ "' both materialize to '" ++ path ++ "'"
  | .closed => "Manifest has already been built"

/-- Gathers files for a manifest. -/
structure ManifestBuilder where
  /-- Whether a file may replace an earlier one of the same path. -/
  allowCollisions : Bool
  /-- The files gathered, under their paths. -/
  entries : List (String × ProjectFile) := []
  /-- Whether a manifest was made. -/
  closed : Bool := false

namespace ManifestBuilder

/-- The number of files gathered. -/
def size (b : ManifestBuilder) : Nat :=
  b.entries.length

/-- The file gathered under a path. -/
def get? (b : ManifestBuilder) (path : String) : Option ProjectFile :=
  (b.entries.find? (·.1 = path)).map (·.2)

/-- Files under their paths with one more; one that is there already is replaced in its place. -/
def put (file : ProjectFile) : List (String × ProjectFile) → List (String × ProjectFile)
  | [] => [(file.path, file)]
  | entry :: rest => if entry.1 = file.path then (file.path, file) :: rest else entry :: put file rest

/-- Where a file was made from, as far as it is known. -/
def origin (file : ProjectFile) : String :=
  match file.source with
  | some source => if source = "" then file.path else source
  | none => file.path

/-- A source in a message. -/
def sourceText (file : ProjectFile) : String :=
  file.source.getD "None"

/-- Takes a file in; a replacement is reported. -/
def add (b : ManifestBuilder) (file : ProjectFile) :
    Except ManifestFault (ManifestBuilder × List Log.Entry) :=
  if b.closed then .error .closed
  else
    let taken := { b with entries := put file b.entries }
    match b.get? file.path with
    | none => .ok (taken, [])
    | some existing =>
      if b.allowCollisions then
        .ok (taken, [⟨.warning, sourceText file ++ " replaces " ++ sourceText existing ++ " at " ++ file.path⟩])
      else .error (.collision file.path (origin existing) (origin file))

/-- The manifest of the files gathered, and the builder, which takes no more. -/
def build (b : ManifestBuilder) : Manifest × ManifestBuilder :=
  (.ofEntries b.entries, { b with closed := true })

end ManifestBuilder

end Stencil
