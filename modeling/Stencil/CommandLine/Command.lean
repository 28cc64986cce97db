import Stencil.CommandLine.Arguments
import Stencil.Disk.Operations
import Stencil.Project.Parameters
import Stencil.Text.Whole

/-!
# Commands

Three commands: the templates of the host are listed, a template becomes a new project on the host, or an
archive of a template becomes files.
-/

namespace Stencil.CommandLine

/-- What commands have in common. -/
structure Shared where
  /-- The path of the configuration file. -/
  config : Option String := none
  /-- Whether details are recorded. -/
  verbose : Bool := false
deriving DecidableEq, Repr

/-- What is asked of the program. -/
inductive Command
  /-- To name its version. -/
  | version
  /-- To say how it is used. -/
  | help
  /-- To list the templates, as data or as a table. -/
  | list (asData : Bool) (shared : Shared)
  /-- To make a project from a template. -/
  | use (template name group : String) (port : Int) (description logFile : Option String) (shared : Shared)
  /-- To make files from an archive. -/
  | render (archive name : String) (port : Int) (output : Option String) (shared : Shared)
deriving DecidableEq, Repr

namespace Command

/-- The option that asks for help. -/
def helpSwitch : Switch := { name := "help" }

/-- The options in front of a command. -/
def programSwitches : List Switch :=
  [{ name := "version" }, helpSwitch]

/-- The options that all commands have. -/
def sharedSwitches : List Switch :=
  [{ name := "config", letter := some 'c', takesValue := true }, { name := "verbose", letter := some 'v' },
    helpSwitch]

/-- The options of a listing. -/
def listSwitches : List Switch :=
  { name := "json" } :: sharedSwitches

/-- The options of commands that make a project. -/
def projectSwitches : List Switch :=
  [{ name := "name", letter := some 'n', takesValue := true },
    { name := "port", letter := some 'p', takesValue := true }] ++ sharedSwitches

/-- The options of making a project on the host. -/
def useSwitches : List Switch :=
  [{ name := "group", letter := some 'g', takesValue := true },
    { name := "desc", letter := some 'd', takesValue := true },
    { name := "log-file", takesValue := true }] ++ projectSwitches

/-- The options of making files. -/
def renderSwitches : List Switch :=
  { name := "output", letter := some 'o', takesValue := true } :: projectSwitches

/-- The options that all commands have, as they are given. -/
def shared (a : Arguments) : Shared :=
  ⟨a.value? "config", a.has "verbose"⟩

/-- The value of an option that has to be given. -/
def required (a : Arguments) (name : String) : Except UsageFault String :=
  (a.value? name).elim (.error (.missing name)) .ok

/-- The port that is given. -/
def port (a : Arguments) : Except UsageFault Int :=
  match a.value? "port" with
  | none => .ok Project.noPort
  | some given => (Text.readWhole? 10 given.toList).elim (.error (.notWhole "port" given)) .ok

/-- The only operand. -/
def operand (a : Arguments) (name : String) : Except UsageFault String :=
  match a.operands with
  | [] => .error (.missing name)
  | [operand] => .ok operand
  | _ :: extra :: _ => .error (.extra extra)

/-- No operand. -/
def noOperand (a : Arguments) : Except UsageFault Unit :=
  match a.operands with
  | [] => .ok ()
  | extra :: _ => .error (.extra extra)

/-- The path of a file that has to be there. -/
def file (d : Disk) (name given : String) : Except UsageFault String :=
  match d.locate true given.toList with
  | .ok ⟨_, some node⟩ => if node.isDirectory then .error (.noFile name given) else .ok given
  | _ => .error (.noFile name given)

/-- A command from its own arguments; help comes before everything but unknown options. -/
def ofArguments (switches : List Switch) (make : Arguments → Except UsageFault Command)
    (arguments : List String) : Except UsageFault Command := do
  let a ← Arguments.read switches true arguments
  if a.has "help" then return .help else make a

/-- The command of a name and its arguments; archives are looked for on the disk. -/
def named (d : Disk) (name : String) (arguments : List String) : Except UsageFault Command :=
  match name with
  | "list" => ofArguments listSwitches (fun a => do
      noOperand a
      return .list (a.has "json") (shared a)) arguments
  | "use" => ofArguments useSwitches (fun a => do
      let template ← operand a "template"
      return .use template (← required a "name") (← required a "group") (← port a) (a.value? "desc")
        (a.value? "log-file") (shared a)) arguments
  | "render" => ofArguments renderSwitches (fun a => do
      let archive ← file d "archive" (← operand a "archive")
      return .render archive (← required a "name") (← port a) (a.value? "output") (shared a)) arguments
  | name => .error (.unknownCommand name)

/-- What options in front of a command ask for by themselves: the first one counts. -/
def ofProgramSwitches (a : Arguments) : Option Command :=
  match a.switches with
  | [] => none
  | (name, _) :: _ => some (if name = "version" then .version else .help)

/-- What a name that stands for no command asks for when it is read as an option. -/
def ofStrayName (name : String) (arguments : List String) : Except UsageFault Command :=
  if Arguments.holdsSwitches name then do
    let a ← Arguments.read programSwitches false (name :: arguments)
    (ofProgramSwitches a).elim (.error (.unknownCommand name)) .ok
  else .error (.unknownCommand name)

/-- The command that arguments ask for. -/
def read (d : Disk) (arguments : List String) : Except UsageFault Command := do
  let a ← Arguments.read programSwitches false arguments
  match ofProgramSwitches a with
  | some command => return command
  | none =>
    match a.operands with
    | [] => throw .noCommand
    | name :: rest =>
      match named d name rest with
      | .error (.unknownCommand _) => ofStrayName name rest
      | outcome => outcome

end Command

end Stencil.CommandLine
