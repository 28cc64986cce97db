import Stencil.Project.Parameters
import Stencil.Template.Compile
import Stencil.Template.Function
import Stencil.Template.Statement

/-!
# Rendering templates

A template is compiled to a page, the page is nested to statements, and these are run with the parameters
of a project.  A fault is one of the template unless a function fails in a way of its own.
-/

namespace Stencil.Template

/-- What names stand for while statements run. -/
structure Environment where
  /-- The functions. -/
  functions : List Function
  /-- The project name. -/
  name : List Char
  /-- The port. -/
  port : Int
  /-- The dots bound so far, the latest first. -/
  dots : List (Nat × Value) := []

namespace Environment

/-- The value of a field. -/
def field (env : Environment) : Field → Value
  | .name => .text env.name
  | .port => .int env.port

/-- The value of a numbered dot. -/
def dot (env : Environment) (binding : Nat) : Value :=
  ((env.dots.find? (·.1 = binding)).map (·.2)).getD .none

/-- The value that a name stands for in a page before any function, if there is one. -/
def shadow? (env : Environment) (name : List Char) : Option Value :=
  if name = "True".toList then some (.bool true)
  else if name = "False".toList then some (.bool false)
  else if name = "none".toList ∨ name = "None".toList then some .none
  else
    match env.dots.find? fun binding => dotName binding.1 = name with
    | some binding => some binding.2
    | none => (Field.ofWord? name).map env.field

/-- The value of a call. -/
def call (env : Environment) (function : List Char) (args : List Value) : Except CallFault Value :=
  match env.shadow? function with
  | some v => .error (.notFunction v.kindName)
  | none =>
    match callee? env.functions function with
    | some f => f.call args
    | none => .ok .none

end Environment

/-- The value of a constant. -/
def Constant.value : Constant → Value
  | .true => .bool Bool.true
  | .false => .bool Bool.false
  | .nil => .none

mutual

/-- The value of an expression. -/
def Term.eval (env : Environment) : Term → Except CallFault Value
  | .text s => .ok (.text s)
  | .numeral written => .ok (.int (numeralValue written))
  | .field f => .ok (env.field f)
  | .dot binding => .ok (env.dot binding)
  | .constant c => .ok c.value
  | .call function args => (Term.evalAll env args).bind (env.call function)

/-- The values of expressions, from left to right. -/
def Term.evalAll (env : Environment) : List Term → Except CallFault (List Value)
  | [] => .ok []
  | t :: rest => do
    let v ← t.eval env
    let vs ← Term.evalAll env rest
    .ok (v :: vs)

end

mutual

/-- Runs a statement: what it prints, and the environment behind it. -/
def Statement.run (env : Environment) : Statement → Except CallFault (List Char × Environment)
  | .data s => .ok (s, env)
  | .output t => (t.eval env).map fun v => (v.printed, env)
  | .assign binding t =>
    (t.eval env).map fun v => ([], { env with dots := (binding, v) :: env.dots })
  | .branch arms otherwise => do
    match ← Statement.runArms env arms with
    | some result => .ok result
    | none => Statement.runAll env otherwise

/-- Runs statements one after the other. -/
def Statement.runAll (env : Environment) : List Statement → Except CallFault (List Char × Environment)
  | [] => .ok ([], env)
  | s :: rest => do
    let (text, env) ← s.run env
    let (more, env) ← Statement.runAll env rest
    .ok (text ++ more, env)

/-- Runs the first arm whose test holds, if there is one. -/
def Statement.runArms (env : Environment) :
    List (Term × List Statement) → Except CallFault (Option (List Char × Environment))
  | [] => .ok none
  | (test, body) :: rest => do
    let v ← test.eval env
    if v.isGiven then (Statement.runAll env body).map some else Statement.runArms env rest

end

/-- Why a template is not rendered. -/
inductive RenderFault
  /-- It is no page. -/
  | compile (fault : CompileFault)
  /-- Its page cannot run. -/
  | page (fault : PageFault) (page : Page)
  /-- A call in it has no value. -/
  | call (fault : CallFault)
deriving Repr

/-- The wording of a render fault. -/
def RenderFault.message : RenderFault → String
  | .compile fault => fault.message
  | .page fault _ =>
    if fault.isNumeric then "error calling function: " ++ fault.message else fault.message
  | .call fault => "error calling function: " ++ fault.message

/-- Whether a fault is none of the template. -/
def RenderFault.escapes : RenderFault → Bool
  | .call fault => fault.escapes
  | _ => false

/-- A message about a template with the place it comes from in front, when that is known. -/
def located (source message : String) : String :=
  if source = "" then message else source ++ ": " ++ message

/-- The place that templates come from when no other is given. -/
def defaultSource : String := "<template>"

/-- The page of a template that may call the functions of a table. -/
def toPage (functions : List Function) (content : List Char) : Except CompileFault Page :=
  compile (hasFunction functions) content

/-- The text of a template for a project. -/
def render (functions : List Function) (parameters : Project.Parameters) (content : List Char) :
    Except RenderFault (List Char) :=
  match toPage functions content with
  | .error fault => .error (.compile fault)
  | .ok page =>
    match page.nest with
    | .error fault => .error (.page fault page)
    | .ok statements =>
      match Statement.runAll ⟨functions, parameters.name.toList, parameters.port, []⟩ statements with
      | .ok (text, _) => .ok text
      | .error fault => .error (.call fault)

end Stencil.Template
