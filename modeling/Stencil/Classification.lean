import Stencil.Disk.Path
import Stencil.Settings.Basic
import Stencil.Text.LetterCase

/-!
# Classes of files

A file is stored as bytes, rendered, or copied, by its extension and its name.  Extensions of bytes count
before those of templates; the case of letters in an extension does not matter.
-/

namespace Stencil

/-- How the bytes of a file become content of a repository. -/
inductive Classification
  /-- Text that is copied. -/
  | text
  /-- Text that is rendered. -/
  | template
  /-- Bytes. -/
  | base64
deriving DecidableEq, Repr

/-- What decides on the class of a file. -/
structure Classifier where
  /-- The extensions of files that are rendered, in lower case. -/
  templateExtensions : List String
  /-- The extensions of files that are stored as bytes, in lower case. -/
  base64Extensions : List String
  /-- The names of files that are rendered. -/
  templateFiles : List String
deriving DecidableEq, Repr

namespace Classifier

/-- The classifier for given lists; what is not given has its default. -/
def of (templateExtensions base64Extensions templateFiles : Option (List String)) : Classifier :=
  ⟨(templateExtensions.getD defaultTemplateExtensions).map Text.lowerString,
    (base64Extensions.getD defaultBase64Extensions).map Text.lowerString,
    templateFiles.getD defaultTemplateFiles⟩

/-- The classifier for settings. -/
def ofSettings (settings : TemplateSettings) : Classifier :=
  of (some settings.extensions) (some settings.base64Extensions) (some settings.files)

/-- The class of the file at a path. -/
def classify (c : Classifier) (path : String) : Classification :=
  let name := Disk.lastSegment path.toList
  let extension := String.ofList (Text.lower (Disk.extension name))
  if extension ≠ "" ∧ extension ∈ c.base64Extensions then .base64
  else if extension ≠ "" ∧ extension ∈ c.templateExtensions ∨ String.ofList name ∈ c.templateFiles then
    .template
  else .text

end Classifier

end Stencil
