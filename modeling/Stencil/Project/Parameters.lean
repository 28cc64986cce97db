import Stencil.Data.Form
import Stencil.Project.Naming
import Stencil.Text.Blank

/-!
# The parameters of a project

A new project has a name and, unless it listens nowhere, a port.  A name is accepted only if neither it nor
a name made from it can lead out of the directory it becomes a part of.
-/

namespace Stencil.Project

/-- The port of projects that listen nowhere. -/
def noPort : Int := -1

/-- Why parameters are refused. -/
inductive ParameterFault
  /-- The name is no text, or only blanks. -/
  | noName
  /-- The name holds a separator of paths. -/
  | separator (name : String)
  /-- The name or a name made from it is a segment that leads elsewhere. -/
  | segment (name made : String)
  /-- The port is no whole number. -/
  | port (given : Data.Value)
deriving Repr

/-- The wording of a refusal. -/
def ParameterFault.message : ParameterFault → String
  | .noName => "Project name must be a non-empty string"
  | .separator name => "Project name must not contain path separators: " ++ Text.quotedString name
  | .segment name made =>
    "Project name " ++ Text.quotedString name ++ " yields the path segment " ++ Text.quotedString made
  | .port given => "Port must be an integer, got " ++ given.form

/-- Whether a character separates segments of a path somewhere, or ends a path. -/
def isSeparator (c : Char) : Bool :=
  c = '/' || c = '\\' || c = '\x00'

/-- Whether a segment means a directory other than one of its name. -/
def isRelativeSegment (segment : List Char) : Bool :=
  segment = ['.'] || segment = ['.', '.']

/-- Why a name is refused, if it is. -/
def nameFault? (name : String) : Option ParameterFault :=
  if name.toList.all Text.isBlank then some .noName
  else if name.toList.any isSeparator then some (.separator name)
  else
    ((Token.all.map (Token.value name.toList)).find? isRelativeSegment).map fun segment =>
      .segment name (String.ofList segment)

/-- The parameters of a project. -/
structure Parameters where
  /-- The name. -/
  name : String
  /-- The port. -/
  port : Int
  /-- The name is acceptable. -/
  acceptable : nameFault? name = none

namespace Parameters

/-- Parameters with the given name and port. -/
def of (name : String) (port : Int) : Except ParameterFault Parameters :=
  match acceptable : nameFault? name with
  | none => .ok ⟨name, port, acceptable⟩
  | some fault => .error fault

/-- Parameters from values of any kind; the name is looked at first. -/
def ofValues (name port : Data.Value) : Except ParameterFault Parameters :=
  match name, port with
  | .text name, .int port => of name port
  | .text name, given =>
    match of name noPort with
    | .ok _ => .error (.port given)
    | .error fault => .error fault
  | _, _ => .error .noName

/-- Whether the project listens on a port. -/
def hasPort (p : Parameters) : Bool :=
  p.port ≠ noPort

end Parameters

end Stencil.Project
