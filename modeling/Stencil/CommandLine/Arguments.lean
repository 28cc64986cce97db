import Stencil.Disk.Path

/-!
# Arguments of a command line

Options begin with a dash and may take a value: the next argument, what stands behind an equals sign of a
long name, or what stands behind a short name.  Short names may share one dash.  Two dashes end the options.
-/

namespace Stencil.CommandLine

/-- An option. -/
structure Switch where
  /-- The name behind two dashes. -/
  name : String
  /-- The letter behind one dash. -/
  letter : Option Char := none
  /-- Whether it takes a value. -/
  takesValue : Bool := false
deriving DecidableEq, Repr

/-- Why arguments are refused. -/
inductive UsageFault
  /-- An option is unknown. -/
  | noSwitch (written : String)
  /-- An option lacks its value. -/
  | noValue (written : String)
  /-- An option takes no value and is given one. -/
  | needlessValue (written : String)
  /-- A command is missing. -/
  | noCommand
  /-- A command is unknown. -/
  | unknownCommand (name : String)
  /-- An argument or an option that a command needs is missing. -/
  | missing (name : String)
  /-- An argument is left over. -/
  | extra (argument : String)
  /-- A value is no whole number. -/
  | notWhole (name given : String)
  /-- A value is no path of a file. -/
  | noFile (name given : String)
deriving DecidableEq, Repr

/-- The wording of a refusal. -/
def UsageFault.message : UsageFault → String
  | .noSwitch written => "No such option: " ++ written
  | .noValue written => "Option '" ++ written ++ "' requires an argument."
  | .needlessValue written => "Option '" ++ written ++ "' does not take a value."
  | .noCommand => "Missing command."
  | .unknownCommand name => "No such command '" ++ name ++ "'."
  | .missing name => "Missing parameter '" ++ name ++ "'."
  | .extra argument => "Got unexpected extra argument (" ++ argument ++ ")"
  | .notWhole name given => "Invalid value for '" ++ name ++ "': '" ++ given ++ "' is not a valid integer."
  | .noFile name given => "Invalid value for '" ++ name ++ "': File '" ++ given ++ "' does not exist."

/-- What arguments say: the options by their names with their values, and the other arguments. -/
structure Arguments where
  /-- The options given, in order. -/
  switches : List (String × String) := []
  /-- The other arguments, in order. -/
  operands : List String := []
deriving DecidableEq, Repr

namespace Arguments

/-- Arguments with an option in front. -/
def withSwitch (name value : String) (a : Arguments) : Arguments :=
  { a with switches := (name, value) :: a.switches }

/-- Arguments with an operand in front. -/
def withOperand (operand : String) (a : Arguments) : Arguments :=
  { a with operands := operand :: a.operands }

/-- The value of an option; of several, the last one counts. -/
def value? (a : Arguments) (name : String) : Option String :=
  (a.switches.reverse.find? (·.1 = name)).map (·.2)

/-- Whether an option is given. -/
def has (a : Arguments) (name : String) : Bool :=
  (a.value? name).isSome

/-- What one argument with options asks for. -/
inductive Demand
  /-- Options, and nothing more. -/
  | done (switches : List (String × String))
  /-- Options, the last of which takes the next argument as its value. -/
  | next (switches : List (String × String)) (name written : String)

/-- The options that short names behind one dash stand for. -/
def readLetters (known : List Switch) : List Char → Except UsageFault Demand
  | [] => .ok (.done [])
  | c :: rest =>
    match known.find? (·.letter = some c) with
    | none => .error (.noSwitch (String.ofList ['-', c]))
    | some switch =>
      if switch.takesValue then
        if rest.isEmpty then .ok (.next [] switch.name (String.ofList ['-', c]))
        else .ok (.done [(switch.name, String.ofList rest)])
      else do
        match ← readLetters known rest with
        | .done switches => .ok (.done ((switch.name, "") :: switches))
        | .next switches name written => .ok (.next ((switch.name, "") :: switches) name written)

/-- The option that a long name stands for. -/
def readName (switch : Switch) (written : String) (value : Option String) : Except UsageFault Demand :=
  match switch.takesValue, value with
  | true, some value => .ok (.done [(switch.name, value)])
  | true, none => .ok (.next [] switch.name written)
  | false, some _ => .error (.needlessValue written)
  | false, none => .ok (.done [(switch.name, "")])

/-- What an argument that begins with a dash asks for. -/
def readSwitch (known : List Switch) (argument : List Char) : Except UsageFault Demand :=
  let written := argument.takeWhile (· ≠ '=')
  let value := if written.length = argument.length then none
    else some (String.ofList (argument.drop (written.length + 1)))
  match known.find? fun switch => '-' :: '-' :: switch.name.toList = written with
  | some switch => readName switch (String.ofList written) value
  | none =>
    if ['-', '-'].isPrefixOf argument then .error (.noSwitch (String.ofList written))
    else readLetters known (argument.drop 1)

/-- Whether an argument holds options. -/
def holdsSwitches (argument : String) : Bool :=
  argument.toList.head? = some '-' && argument.length ≠ 1

/-- Reads arguments; options behind the first operand belong to it when `mixed` is false. -/
def read (known : List Switch) (mixed : Bool) (arguments : List String) : Except UsageFault Arguments :=
  match arguments with
  | [] => .ok {}
  | argument :: rest =>
    if argument = "--" then .ok ⟨[], rest⟩
    else if holdsSwitches argument then do
      match ← readSwitch known argument.toList with
      | .done switches =>
        let others ← read known mixed rest
        return { others with switches := switches ++ others.switches }
      | .next switches name written =>
        match rest with
        | [] => .error (.noValue written)
        | value :: rest =>
          let others ← read known mixed rest
          return { others with switches := switches ++ (name, value) :: others.switches }
    else if mixed then (read known mixed rest).map (withOperand argument)
    else .ok ⟨[], argument :: rest⟩

end Arguments

end Stencil.CommandLine
