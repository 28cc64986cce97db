import Stencil.Data.Yaml.Reader
import Stencil.Settings.Load
import Stencil.Work

/-!
# Configuration files

The settings of a run come from a configuration file, if there is one.  A file is named by the caller or by
a variable of the environment; otherwise the first of two usual places counts.  Variables may also replace
single settings of the file.
-/

namespace Stencil

open Data (Value)

/-- The variables and the home of whoever runs the program. -/
structure Environment where
  /-- The variables with their values. -/
  assignments : List (String × String) := []
  /-- The home directory. -/
  home : List Char := []
deriving Repr

namespace Environment

/-- The value of a variable, unless it is empty. -/
def get? (e : Environment) (name : String) : Option String :=
  (e.assignments.lookup name).filter (· ≠ "")

end Environment

namespace Configuration

/-- Why there are no settings. -/
inductive Fault
  /-- The named file is not there. -/
  | missing (path : String)
  /-- The file cannot be opened. -/
  | unreadable (fault : Disk.Fault)
  /-- The file holds no text. -/
  | undecodable (fault : Text.Utf8.Fault)
  /-- The file holds no document. -/
  | malformed (path : String)
  /-- A value in the file cannot be made. -/
  | value (fault : Data.Yaml.Fault)
  /-- The document is no mapping. -/
  | notMapping (path : String)
  /-- A setting is to be replaced within something that is no mapping. -/
  | noSection (found : Value)
  /-- The values are no settings; they come from a file or elsewhere. -/
  | refused (source : String) (faults : List Settings.Fault)
deriving Repr

/-- The wording of a failure; the single faults of refused values stand beside it. -/
def Fault.message : Fault → String
  | .missing path => "Config file not found: " ++ path
  | .unreadable fault => fault.message
  | .undecodable fault => fault.message
  | .malformed path => "Invalid YAML in " ++ path
  | .value fault => fault.message
  | .notMapping path => path ++ " must contain a mapping at the top level"
  | .noSection (.list _) => "list indices must be integers or slices, not str"
  | .noSection found => "'" ++ found.kindName ++ "' object does not support item assignment"
  | .refused source _ => "Invalid configuration in " ++ source ++ ":"

/-- Whether a failure is one of the configuration; others concern the machine or the run. -/
def Fault.isExpected : Fault → Bool
  | .missing _ | .malformed _ | .notMapping _ | .refused _ _ => true
  | _ => false

/-- The variable that names the configuration file. -/
def pathVariable : String := "GLFAST_CONFIG"

/-- The variables that replace settings of the host, each with the key of its setting. -/
def overrides : List (String × String) :=
  [("GL_TOKEN", "token"), ("GL_BASEURL", "baseurl")]

/-- The section that the replaced settings are in. -/
def overriddenSection : String := "gitlab"

/-- The places where a configuration file is looked for. -/
def usualPaths (e : Environment) : List (List Char) :=
  ["config.yaml".toList, Disk.below e.home [".glfast".toList, "config.yaml".toList]]

/-- Whether something is at a path. -/
def existsAt (d : Disk) (path : List Char) : Except Fault Bool :=
  match d.locate true path with
  | .ok spot => .ok spot.node.isSome
  | .error .nameTooLong => .error (.unreadable ⟨.nameTooLong, path⟩)
  | .error _ => .ok false

/-- The path of the configuration file, if there is one. -/
def findPath (d : Disk) (e : Environment) (given : Option String) : Except Fault (Option (List Char)) :=
  match given.filter (· ≠ ""), e.get? pathVariable with
  | some path, _ => .ok (some (Disk.tidy path.toList))
  | none, some path => .ok (some (Disk.tidy path.toList))
  | none, none => first (usualPaths e)
where
  /-- The first path that something is at. -/
  first : List (List Char) → Except Fault (Option (List Char))
    | [] => .ok none
    | path :: rest => do
      if ← existsAt d path then return some path else first rest

/-- A text in which all lines end in the same way. -/
def unifyLineEnds : List Char → List Char
  | '\r' :: '\n' :: rest => '\n' :: unifyLineEnds rest
  | '\r' :: rest => '\n' :: unifyLineEnds rest
  | c :: rest => c :: unifyLineEnds rest
  | [] => []

/-- The entries of the document in a text. -/
def readText (path : String) (text : List Char) : Except Fault (List (Value × Value)) :=
  match Data.Yaml.read (unifyLineEnds text) with
  | .error .malformed => .error (.malformed path)
  | .error fault => .error (.value fault)
  | .ok .null => .ok []
  | .ok (.mapping entries) => .ok entries
  | .ok _ => .error (.notMapping path)

/-- The entries of a configuration file. -/
def readFile (d : Disk) (path : List Char) : Except Fault (List (Value × Value)) := do
  let shown := String.ofList path
  if !(← existsAt d path) then throw (.missing shown)
  else
    match d.read path with
    | .error fault => throw (.unreadable fault)
    | .ok bytes =>
      match Text.Utf8.decode bytes with
      | .error fault => throw (.undecodable fault.inPieces)
      | .ok text => readText shown text

/-- Entries in which a setting of a section is replaced; a section that holds nothing counts as empty. -/
def replace (name key value : String) (entries : List (Value × Value)) :
    Except Fault (List (Value × Value)) :=
  let put (inner : List (Value × Value)) : List (Value × Value) :=
    Value.insertEntry (.text name) (.mapping (Value.insertEntry (.text key) (.text value) inner)) entries
  match Value.find? name entries with
  | none => .ok (put [])
  | some (.mapping inner) => .ok (put inner)
  | some found => if found.isGiven then .error (.noSection found) else .ok (put [])

/-- Entries in which the variables of the environment replace settings. -/
def applyEnvironment (e : Environment) (entries : List (Value × Value)) :
    Except Fault (List (Value × Value)) :=
  overrides.foldlM (fun entries (name, key) =>
    match e.get? name with
    | some value => replace overriddenSection key value entries
    | none => .ok entries) entries

/-- The settings that entries give. -/
def settingsOf (source : String) (entries : List (Value × Value)) : Except Fault Settings :=
  match Settings.ofEntries entries with
  | .ok settings => .ok settings
  | .error faults => .error (.refused source faults)

/-- What loading gives: the settings, and the path of the file that they come from. -/
structure Loaded where
  /-- The path of the file. -/
  path : Option (List Char)
  /-- The settings. -/
  settings : Settings
deriving Repr

/-- Loads the settings of a run; `given` is the path that the caller names. -/
def load (e : Environment) (given : Option String) : Work Fault Loaded := do
  let disk ← Work.disk
  match ← findPath disk e given with
  | none =>
    Work.report .debug "No config file found, using defaults"
    return ⟨none, ← settingsOf "configuration" (← applyEnvironment e [])⟩
  | some path =>
    let settings ← settingsOf (String.ofList path) (← applyEnvironment e (← readFile disk path))
    Work.report .debug ("Loaded configuration from " ++ String.ofList path)
    return ⟨some path, settings⟩

end Configuration

end Stencil
