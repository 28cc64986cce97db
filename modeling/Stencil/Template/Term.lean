import Stencil.Template.Literal
import Stencil.Template.Token

/-!
# Terms

What an action computes: literals, the two fields, the dot of a `with` block, and calls.  A pipeline hands
the value of a stage to the next one as its last argument.
-/

namespace Stencil.Template

/-- A named constant. -/
inductive Constant
  /-- The true value. -/
  | true
  /-- The false value. -/
  | false
  /-- No value. -/
  | nil
deriving DecidableEq, Repr

/-- The constant of a word. -/
def Constant.ofWord? (word : List Char) : Option Constant :=
  if word = "true".toList then some .true
  else if word = "false".toList then some .false
  else if word = "nil".toList then some .nil
  else none

/-- A field of the project parameters. -/
inductive Field
  /-- The project name. -/
  | name
  /-- The port. -/
  | port
deriving DecidableEq, Repr

namespace Field

/-- How a field is called. -/
def word : Field → String
  | name => "Name"
  | port => "Port"

/-- The field of a word. -/
def ofWord? (w : List Char) : Option Field :=
  if w = name.word.toList then some name
  else if w = port.word.toList then some port
  else none

end Field

/-- What an action computes. -/
inductive Term
  /-- A text. -/
  | text (s : List Char)
  /-- A number as it is written. -/
  | numeral (written : List Char)
  /-- A field. -/
  | field (f : Field)
  /-- The dot bound by the `with` block of a number. -/
  | dot (binding : Nat)
  /-- A constant. -/
  | constant (c : Constant)
  /-- A call of a function. -/
  | call (function : List Char) (args : List Term)
deriving Repr

/-- Why a body is not a term. -/
inductive TermFault
  /-- A value is missing. -/
  | noValue
  /-- A character that begins no token. -/
  | character (c : Char)
  /-- A token behind the end of the term. -/
  | trailing (token : Token)
  /-- A function that is not known. -/
  | unknownFunction (name : List Char)
  /-- A value in a stage that is to be called. -/
  | notExecutable (token : Token)
  /-- An argument behind a value. -/
  | argument (token : Token)
  /-- A literal that stands for nothing. -/
  | literal (written : List Char) (fault : LiteralFault)
  /-- A field of a field. -/
  | fieldChain (token : Token)
  /-- A field inside a `with` block. -/
  | rebound (name : List Char)
  /-- A field that is not known. -/
  | unknownField (name : List Char)
  /-- The dot outside of `with` blocks. -/
  | bareDot
  /-- A variable. -/
  | variable (token : Token)
  /-- A function as an argument. -/
  | bareFunction (name : List Char)
  /-- A parenthesis that is not closed. -/
  | unclosed
  /-- A token that is no operand. -/
  | operand (token : Token)
deriving DecidableEq, Repr

/-- The wording of a term fault. -/
def TermFault.message (fault : TermFault) : String :=
  let text (token : Token) := String.ofList token.written
  match fault with
  | .noValue => "missing value for command"
  | .character c => "unexpected character " ++ Text.quotedString (String.singleton c) ++ " in command"
  | .trailing token => "unexpected " ++ Text.quotedString (text token) ++ " in command"
  | .unknownFunction name => "function \"" ++ String.ofList name ++ "\" not defined"
  | .notExecutable token => "non executable command in pipeline stage: " ++ text token
  | .argument token => "can't give argument to non-function " ++ text token
  | .literal written fault => "invalid string literal " ++ String.ofList written ++ ": " ++ fault.message
  | .fieldChain token => "field chains are not supported: " ++ text token
  | .rebound name =>
    "can't evaluate field " ++ String.ofList name ++ ": dot is rebound by \x7b\x7bwith\x7d\x7d"
  | .unknownField name => "can't evaluate field " ++ String.ofList name
  | .bareDot => "the bare dot is only supported inside \x7b\x7bwith\x7d\x7d; use .Name or .Port"
  | .variable token => "variables are not supported: " ++ text token
  | .bareFunction name => "function " ++ String.ofList name ++ " used as an argument must be parenthesized"
  | .unclosed => "unclosed left paren"
  | .operand token => "unexpected " ++ Text.quotedString (text token) ++ " in operand"

/-- What names in a term may refer to. -/
structure Scope where
  /-- Whether a function is known. -/
  isFunction : List Char → Bool
  /-- The innermost dot, if there is one. -/
  dot : Option Nat

/-- Whether a command ends before the rest of the tokens. -/
def endsCommand : List Token → Bool
  | [] => true
  | .closing :: _ => true
  | .bar :: _ => true
  | _ => false

/-- The term of a token that is an operand by itself. -/
def Scope.atom (scope : Scope) (token : Token) : Except TermFault Term :=
  match token with
  | .quoted written =>
    match readLiteral (written.drop 1).dropLast with
    | .ok s => .ok (.text s)
    | .error fault => .error (.literal written fault)
  | .raw s => .ok (.text s)
  | .numeral written => .ok (.numeral written)
  | .field [name] =>
    if scope.dot.isSome then .error (.rebound name)
    else
      match Field.ofWord? name with
      | some f => .ok (.field f)
      | none => .error (.unknownField name)
  | .field _ => .error (.fieldChain token)
  | .dot =>
    match scope.dot with
    | some binding => .ok (.dot binding)
    | none => .error .bareDot
  | .variable _ => .error (.variable token)
  | .word name =>
    match Constant.ofWord? name with
    | some c => .ok (.constant c)
    | none => .error (if scope.isFunction name then .bareFunction name else .unknownFunction name)
  | .opening => .error (.operand token)
  | .closing => .error (.operand token)
  | .bar => .error (.operand token)

mutual

/-- Reads a pipeline: a command, and further ones behind bars.  Here and below, `fuel` bounds the depth. -/
def Scope.readPipeline (scope : Scope) : (fuel : Nat) → List Token → Except TermFault (Term × List Token)
  | 0, _ => .error .noValue
  | fuel + 1, tokens => do
    let (value, rest) ← scope.readCommand fuel none tokens
    scope.readStages fuel value rest

/-- Reads the stages behind a value. -/
def Scope.readStages (scope : Scope) : (fuel : Nat) → Term → List Token → Except TermFault (Term × List Token)
  | fuel + 1, value, .bar :: tokens => do
    let (value, rest) ← scope.readCommand fuel (some value) tokens
    scope.readStages fuel value rest
  | _, value, tokens => .ok (value, tokens)

/-- Reads a command: a call, or a single operand, which no value can be handed to. -/
def Scope.readCommand (scope : Scope) :
    (fuel : Nat) → (piped : Option Term) → List Token → Except TermFault (Term × List Token)
  | 0, _, _ => .error .noValue
  | fuel + 1, piped, tokens =>
    if endsCommand tokens then .error .noValue
    else
      match tokens with
      | [] => .error .noValue
      | token :: rest =>
        let callee := match token with
          | .word name => if (Constant.ofWord? name).isNone then some name else none
          | _ => none
        match callee with
        | some name =>
          if scope.isFunction name then do
            let (args, rest) ← scope.readOperands fuel rest
            .ok (.call name (args ++ piped.toList), rest)
          else .error (.unknownFunction name)
        | none =>
          if piped.isSome then .error (.notExecutable token)
          else do
            let (value, rest) ← scope.readOperand fuel (token :: rest)
            if endsCommand rest then .ok (value, rest) else .error (.argument token)

/-- Reads operands up to the end of a command. -/
def Scope.readOperands (scope : Scope) : (fuel : Nat) → List Token → Except TermFault (List Term × List Token)
  | 0, _ => .error .noValue
  | fuel + 1, tokens =>
    if endsCommand tokens then .ok ([], tokens)
    else do
      let (value, rest) ← scope.readOperand fuel tokens
      let (values, rest) ← scope.readOperands fuel rest
      .ok (value :: values, rest)

/-- Reads one operand. -/
def Scope.readOperand (scope : Scope) : (fuel : Nat) → List Token → Except TermFault (Term × List Token)
  | 0, _ => .error .noValue
  | _ + 1, [] => .error .noValue
  | fuel + 1, .opening :: tokens => do
    let (value, rest) ← scope.readPipeline fuel tokens
    match rest with
    | .closing :: rest => .ok (value, rest)
    | _ => .error .unclosed
  | _ + 1, token :: tokens => (scope.atom token).map (·, tokens)

end

/-- The term of a body. -/
def Scope.read (scope : Scope) (body : List Char) : Except TermFault Term :=
  match tokens body with
  | .error c => .error (.character c)
  | .ok [] => .error .noValue
  | .ok found => do
    let (value, rest) ← scope.readPipeline (4 * found.length + 4) found
    match rest with
    | [] => .ok value
    | token :: _ => .error (.trailing token)

end Stencil.Template
