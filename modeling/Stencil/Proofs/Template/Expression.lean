import Stencil.Template.Render

/-!
# Expressions, read and computed directly

What an action says is a tree of values, calls and pipelines.  A body is read token by token with a stack
of the commands that are open, and a tree is computed at once: the dot is a value that is handed down, and
a pipeline hands the value of a stage to the function of the next one as its last argument.
-/

namespace Stencil.Template.Direct

/-- What an action says. -/
inductive Expr
  /-- A text. -/
  | text (s : List Char)
  /-- A number as it is written. -/
  | numeral (written : List Char)
  /-- A field of the project. -/
  | field (f : Field)
  /-- The dot. -/
  | dot
  /-- A constant. -/
  | constant (c : Constant)
  /-- A call of a function. -/
  | call (function : List Char) (args : List Expr)
  /-- A value that is handed to a function behind its other arguments. -/
  | piped (value : Expr) (function : List Char) (args : List Expr)
deriving Repr

/-! ## Computing -/

/-- The value of a field. -/
def fieldValue (p : Project.Parameters) : Field → Value
  | .name => .text p.name.toList
  | .port => .int p.port

/-- The value of a call of one of the functions at hand. -/
def invoke (function : List Char) (args : List Value) : Option Value := do
  let f ← builtins.find? (·.name.toList = function)
  (f.call args).toOption

mutual

/-- The value of an expression, if it has one, where the dot stands for a value. -/
def Expr.value (p : Project.Parameters) (dot : Value) : Expr → Option Value
  | .text s => some (.text s)
  | .numeral written => some (.int (numeralValue written))
  | .field f => some (fieldValue p f)
  | .dot => some dot
  | .constant c => some c.value
  | .call function args => do
    let values ← Expr.values p dot args
    invoke function values
  | .piped e function args => do
    let values ← Expr.values p dot args
    let last ← e.value p dot
    invoke function (values ++ [last])

/-- The values of expressions, from left to right. -/
def Expr.values (p : Project.Parameters) (dot : Value) : List Expr → Option (List Value)
  | [] => some []
  | e :: rest => do
    let v ← e.value p dot
    let values ← Expr.values p dot rest
    some (v :: values)

end

/-- Whether a row of digits is a number: zeros alone, or digits of any script behind an ASCII one that is no
zero; a number does not have too many digits. -/
def isNumber (digits : List Char) : Bool :=
  digits.length ≤ Text.mostDigits &&
    (digits.all (· = '0') || digits.head?.any fun c => Text.isAsciiDigit c && c ≠ '0')

mutual

/-- Whether every numeral of an expression is a number. -/
def Expr.isSound : Expr → Bool
  | .numeral written => isNumber (unsigned written)
  | .call _ args => Expr.areSound args
  | .piped e _ args => Expr.areSound args && e.isSound
  | _ => true

/-- Whether every numeral of some expressions is a number. -/
def Expr.areSound : List Expr → Bool
  | [] => true
  | e :: rest => e.isSound && Expr.areSound rest

end

/-! ## Reading -/

/-- The expression of a token that is an operand by itself; `bound` says whether the dot is that of a `with`
block.  There the fields are out of reach, and elsewhere the dot is. -/
def atom? (bound : Bool) : Token → Option Expr
  | .quoted written => ((readLiteral (written.drop 1).dropLast).toOption).map .text
  | .raw s => some (.text s)
  | .numeral written => some (.numeral written)
  | .field [name] => if bound then none else (Field.ofWord? name).map .field
  | .dot => if bound then some .dot else none
  | .word name => (Constant.ofWord? name).map .constant
  | _ => none

/-- A command as far as it has been read. -/
inductive Command
  /-- Nothing of it, and the value that comes from the stage before, if there is one. -/
  | start (piped : Option Expr)
  /-- A single value. -/
  | value (e : Expr)
  /-- A function with arguments, and the value that comes from the stage before. -/
  | call (function : List Char) (args : List Expr) (piped : Option Expr)
deriving Repr

namespace Command

/-- What a command says if it ends here. -/
def result? : Command → Option Expr
  | start _ => none
  | value e => some e
  | call function args none => some (.call function args)
  | call function args (some e) => some (.piped e function args)

/-- A command with one more operand; only a call takes more than one, and a value that comes from the stage
before needs a function. -/
def operand? : Command → Expr → Option Command
  | start none, e => some (value e)
  | call function args piped, e => some (call function (args ++ [e]) piped)
  | _, _ => none

/-- Whether a command takes one more operand. -/
def takesOperand : Command → Bool
  | start none => true
  | call _ _ _ => true
  | _ => false

/-- A command with one more token; a word at its head names the function. -/
def token? (isFunction : List Char → Bool) (bound : Bool) : Command → Token → Option Command
  | start piped, .word name =>
    match Constant.ofWord? name with
    | some c => operand? (start piped) (.constant c)
    | none => if isFunction name then some (call name [] piped) else none
  | c, token => (atom? bound token).bind c.operand?

end Command

/-- A body as far as it has been read. -/
structure Reading where
  /-- The commands around the parentheses that are open, the innermost first. -/
  outer : List Command
  /-- The innermost command. -/
  inner : Command
deriving Repr

namespace Reading

/-- Reads one token. -/
def step (isFunction : List Char → Bool) (bound : Bool) (r : Reading) : Token → Option Reading
  | .bar => r.inner.result?.map fun e => { r with inner := .start (some e) }
  | .opening => if r.inner.takesOperand then some ⟨r.inner :: r.outer, .start none⟩ else none
  | .closing =>
    match r.outer with
    | [] => none
    | around :: outer => do
      let e ← r.inner.result?
      let around ← around.operand? e
      some ⟨outer, around⟩
  | token => (r.inner.token? isFunction bound token).map fun inner => { r with inner }

/-- Reads tokens to their end, where no parenthesis may be open. -/
def finish (isFunction : List Char → Bool) (bound : Bool) (r : Reading) : List Token → Option Expr
  | [] => if r.outer.isEmpty then r.inner.result? else none
  | token :: rest => (r.step isFunction bound token).bind fun r => r.finish isFunction bound rest

end Reading

/-- The expression of the body of an action, if it is one. -/
def expression? (isFunction : List Char → Bool) (bound : Bool) (body : List Char) : Option Expr := do
  let found ← (tokens body).toOption
  let e ← Reading.finish isFunction bound ⟨[], .start none⟩ found
  if e.isSound then some e else none

end Stencil.Template.Direct
