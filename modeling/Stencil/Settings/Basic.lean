import Stencil.Data.Value

/-!
# Settings

How the host of the repositories is reached, and how templates are found, classified and committed.
-/

namespace Stencil

/-- The address of the public host. -/
def publicHost : String := "https://gitlab.com"

/-- How the host of the repositories is reached. -/
structure HostSettings where
  /-- The address of the host. -/
  baseUrl : String := publicHost
  /-- The access token. -/
  token : Option String := none
  /-- The seconds after which a request is given up. -/
  timeout : Decimal.Binary64 := .ofInt 30
deriving DecidableEq, Repr

/-- Settings of the host as data, under their keys. -/
def HostSettings.toValue (s : HostSettings) : Data.Value :=
  .mapping [(.text "baseurl", .text s.baseUrl), (.text "token", s.token.elim .null .text),
    (.text "timeout", .float s.timeout)]

/-- The extensions of files that are rendered, unless others are set. -/
def defaultTemplateExtensions : List String :=
  [".go", ".java", ".py", ".vue", ".md", ".html", ".css", ".js", ".scss", ".json", ".xml", ".yml", ".yaml",
    ".kt", ".gradle"]

/-- The extensions of files that are stored as bytes, unless others are set. -/
def defaultBase64Extensions : List String :=
  [".png", ".jar", ".jpg", ".jks"]

/-- The names of files that are rendered whatever their extension, unless others are set. -/
def defaultTemplateFiles : List String :=
  ["Dockerfile", "Makefile"]

/-- How templates are found, classified and committed. -/
structure TemplateSettings where
  /-- The group that holds the template projects. -/
  group : String := "template"
  /-- The extensions of files that are rendered. -/
  extensions : List String := defaultTemplateExtensions
  /-- The extensions of files that are stored as bytes. -/
  base64Extensions : List String := defaultBase64Extensions
  /-- The names of files that are rendered whatever their extension. -/
  files : List String := defaultTemplateFiles
  /-- The branch of the first commit. -/
  branch : String := "master"
  /-- The branch that work starts on. -/
  devBranch : Option String := some "dev"
  /-- The message of the first commit. -/
  commitMessage : String := "init project [skip ci]"
  /-- Whether a file may replace an earlier one of the same path. -/
  allowCollisions : Bool := false
deriving DecidableEq, Repr

/-- Settings of templates as data, under their keys. -/
def TemplateSettings.toValue (s : TemplateSettings) : Data.Value :=
  let texts (l : List String) : Data.Value := .list (l.map .text)
  .mapping [(.text "namespace", .text s.group), (.text "extensions", texts s.extensions),
    (.text "base64_extensions", texts s.base64Extensions), (.text "files", texts s.files),
    (.text "branch", .text s.branch), (.text "dev_branch", s.devBranch.elim .null .text),
    (.text "commit_message", .text s.commitMessage), (.text "allow_path_collisions", .bool s.allowCollisions)]

/-- All settings. -/
structure Settings where
  /-- How the host is reached. -/
  host : HostSettings := {}
  /-- How templates are treated. -/
  template : TemplateSettings := {}
deriving DecidableEq, Repr

/-- Settings as data, under their keys. -/
def Settings.toValue (s : Settings) : Data.Value :=
  .mapping [(.text "gitlab", s.host.toValue), (.text "template", s.template.toValue)]

end Stencil
