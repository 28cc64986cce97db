import Stencil.Disk.Path
import Stencil.Settings.Check
import Stencil.Text.LetterCase

/-!
# Settings from values

The settings that a mapping of a data file gives.  Addresses lose the slashes at their end, extensions are
written in lower case with a point in front, and file names are names without a path.
-/

namespace Stencil

open Data (Value)
open Settings

namespace HostSettings

/-- Whether a text begins as another one does. -/
def beginsWith (s start : String) : Bool :=
  start.toList.isPrefixOf s.toList

/-- The address of a host without slashes at its end; it names how the host is reached. -/
def checkAddress (s : String) : Checked String :=
  if beginsWith s "https://" || beginsWith s "http://" then
    .accept (String.ofList (Text.trimEndWith (· = '/') s.toList))
  else .refuse (.rule ("GitLab baseurl must start with https:// or http://. Got: " ++ s))

/-- The settings of a host that entries of a mapping give. -/
def ofEntries (entries : List (Value × Value)) : Checked HostSettings :=
  (fun baseUrl token timeout _ => ⟨baseUrl, token, timeout⟩)
    <$> checkField "baseurl" publicHost (fun v => (checkText v).andThen checkAddress) entries
    <*> checkField "token" none checkOptionalText entries
    <*> checkField "timeout" (.ofInt 30) checkPositive entries
    <*> checkKeys ["baseurl", "token", "timeout"] entries

/-- The settings of a host that a value gives. -/
def ofValue : Value → Checked HostSettings :=
  checkMapping "GitLabSettings" ofEntries

end HostSettings

namespace TemplateSettings

/-- An extension in lower case with a point in front. -/
def normalExtension (s : String) : Checked String :=
  match Text.lower (Text.trim s.toList) with
  | [] => .refuse (.rule "Extension must not be empty")
  | '.' :: rest => .accept (String.ofList ('.' :: rest))
  | rest => .accept (String.ofList ('.' :: rest))

/-- A check of items that stops at the first fault. -/
def checkEach (check : String → Checked String) : List String → Checked (List String)
  | [] => .accept []
  | s :: rest => (check s).andThen fun first => (checkEach check rest).map (first :: ·)

/-- Extensions. -/
def checkExtensions (v : Value) : Checked (List String) :=
  (checkTexts v).andThen (checkEach normalExtension)

/-- The name of a file, without a path. -/
def checkFileName (s : String) : Checked String :=
  if s = "" ∨ '/' ∈ s.toList then
    .refuse (.rule ("Template file entry must be a bare file name, got '" ++ s ++ "'"))
  else .accept s

/-- Names of files. -/
def checkFileNames (v : Value) : Checked (List String) :=
  (checkTexts v).andThen (checkEach checkFileName)

/-- The settings of templates that entries of a mapping give. -/
def ofEntries (entries : List (Value × Value)) : Checked TemplateSettings :=
  (fun group extensions base64Extensions files branch devBranch commitMessage allowCollisions _ =>
    ⟨group, extensions, base64Extensions, files, branch, devBranch, commitMessage, allowCollisions⟩)
    <$> checkField "namespace" "template" checkText entries
    <*> checkField "extensions" defaultTemplateExtensions checkExtensions entries
    <*> checkField "base64_extensions" defaultBase64Extensions checkExtensions entries
    <*> checkField "files" defaultTemplateFiles checkFileNames entries
    <*> checkField "branch" "master" checkText entries
    <*> checkField "dev_branch" (some "dev") checkOptionalText entries
    <*> checkField "commit_message" "init project [skip ci]" checkText entries
    <*> checkField "allow_path_collisions" false checkFlag entries
    <*> checkKeys ["namespace", "extensions", "base64_extensions", "files", "branch", "dev_branch",
      "commit_message", "allow_path_collisions"] entries

/-- The settings of templates that a value gives. -/
def ofValue : Value → Checked TemplateSettings :=
  checkMapping "TemplateSettings" ofEntries

/-- Puts a text into its place among ascending ones; one that is there already is not put in again. -/
def insertText (s : String) : List String → List String
  | [] => [s]
  | t :: rest => if s < t then s :: t :: rest else if s = t then t :: rest else t :: insertText s rest

/-- The extensions that are in both lists, ascending. -/
def overlap (settings : TemplateSettings) : List String :=
  (settings.extensions.filter (· ∈ settings.base64Extensions)).foldr insertText []

/-- The warning about extensions that are in both lists, if there are any. -/
def overlapWarning? (settings : TemplateSettings) : Option String :=
  match settings.overlap with
  | [] => none
  | found => some ("Extensions configured as both template and base64 (treated as base64): " ++
      ", ".intercalate found)

end TemplateSettings

namespace Settings

/-- The settings that entries of a mapping give. -/
def ofEntries (entries : List (Value × Value)) : Checked Settings :=
  (fun host template _ => ⟨host, template⟩)
    <$> checkField "gitlab" {} HostSettings.ofValue entries
    <*> checkField "template" {} TemplateSettings.ofValue entries
    <*> checkKeys ["gitlab", "template"] entries

/-- The settings that a value gives. -/
def ofValue : Value → Checked Settings :=
  checkMapping "GlfastSettings" ofEntries

end Settings

end Stencil
