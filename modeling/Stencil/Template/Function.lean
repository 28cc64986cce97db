import Stencil.Project.Naming
import Stencil.Template.Format
import Stencil.Template.Page
import Stencil.Text.Utf8

/-!
# Functions of templates

The functions that actions can call: printing, measuring, comparing, the connectives, and the ways to make
names.  A table of functions can be extended with further ones, which take the place of those of their name.
-/

namespace Stencil.Template

/-- Why a call has no value. -/
inductive CallFault
  /-- Arguments that are missing. -/
  | missing (title : String) (names : List String)
  /-- More arguments than a function takes. -/
  | tooMany (title : String) (takes given : Nat)
  /-- An argument that is no text. -/
  | notText (name kind : String)
  /-- A value compared with nothing. -/
  | fewOperands
  /-- Two values that have no order. -/
  | unordered (symbol left right : String)
  /-- A value without a length. -/
  | noLength (kind : String)
  /-- A value without items. -/
  | noItems (kind : String)
  /-- A place that is no whole number; `bytes` says whether it is a place in a text. -/
  | place (bytes : Bool) (kind : String)
  /-- A place outside of a value; `bytes` says whether it is a place in a text. -/
  | outside (bytes : Bool)
  /-- A place that is beyond all places. -/
  | hugePlace
  /-- A format that is no text. -/
  | formatKind (kind : String)
  /-- A format that cannot be printed. -/
  | format (fault : FormatFault)
  /-- A value that is no function. -/
  | notFunction (kind : String)
  /-- A fault of a further function; `escapes` says whether it is no fault of the template. -/
  | raised (kind message : String) (escapes : Bool)
deriving DecidableEq, Repr

/-- Names in quotes in a row, with a word before the last one. -/
def namesText (names : List String) : String :=
  let quoted := names.map fun name => "'" ++ name ++ "'"
  match quoted with
  | [] => ""
  | [a] => a
  | [a, b] => a ++ " and " ++ b
  | _ => ", ".intercalate quoted.dropLast ++ ", and " ++ quoted.getLast?.getD ""

/-- A word with the ending of its number. -/
def plural (count : Nat) (word : String) : String :=
  if count = 1 then word else word ++ "s"

/-- The wording of a call fault. -/
def CallFault.message : CallFault → String
  | .missing title names =>
    title ++ "() missing " ++ Data.decimal names.length ++ " required positional " ++
      plural names.length "argument" ++ ": " ++ namesText names
  | .tooMany title takes given =>
    title ++ "() takes " ++ Data.decimal takes ++ " positional " ++ plural takes "argument" ++ " but " ++
      Data.decimal given ++ (if given = 1 then " was" else " were") ++ " given"
  | .notText name kind => name ++ " expects a string argument, got " ++ kind
  | .fewOperands => "eq needs at least two arguments"
  | .unordered symbol left right =>
    "'" ++ symbol ++ "' not supported between instances of '" ++ left ++ "' and '" ++ right ++ "'"
  | .noLength kind => "len of type " ++ kind
  | .noItems kind => "'" ++ kind ++ "' object is not subscriptable"
  | .place bytes kind =>
    (if bytes then "byte" else "list") ++ " indices must be integers or slices, not " ++ kind
  | .outside bytes => if bytes then "index out of range" else "list index out of range"
  | .hugePlace => "cannot fit 'int' into an index-sized integer"
  | .formatKind kind => "printf expects a format string, got " ++ kind
  | .format fault => fault.message
  | .notFunction kind => "'" ++ kind ++ "' object is not callable"
  | .raised _ message _ => message

/-- Whether a fault is none of the template. -/
def CallFault.escapes : CallFault → Bool
  | .format fault => fault.isOverflow
  | .raised _ _ escapes => escapes
  | _ => false

/-- The arguments that a function takes. -/
structure Signature where
  /-- How the function is called in messages. -/
  title : String
  /-- The arguments that have to be given. -/
  required : List String := []
  /-- Whether further arguments may be given. -/
  variadic : Bool := false
deriving DecidableEq, Repr

/-- The fault of a call with a number of arguments, if it has one. -/
def Signature.fault? (s : Signature) (given : Nat) : Option CallFault :=
  if given < s.required.length then some (.missing s.title (s.required.drop given))
  else if s.required.length < given && !s.variadic then some (.tooMany s.title s.required.length given)
  else none

/-- A function of templates. -/
structure Function where
  /-- Its name. -/
  name : String
  /-- The arguments it takes. -/
  signature : Signature
  /-- Its value for arguments that it takes. -/
  run : List Value → Except CallFault Value

/-- The value of a call. -/
def Function.call (f : Function) (args : List Value) : Except CallFault Value :=
  match f.signature.fault? args.length with
  | some fault => .error fault
  | none => f.run args

/-! ## The functions at hand -/

/-- Whether a value is equal to one of some others. -/
def equalsAny : List Value → Except CallFault Value
  | [] => .error .fewOperands
  | [_] => .error .fewOperands
  | first :: others => .ok (.bool (others.any first.same))

/-- The first value that is not given, or else the last one. -/
def conjunction : List Value → Value
  | [] => .none
  | [v] => v
  | v :: rest => if v.isGiven then conjunction rest else v

/-- The first value that is given, or else the last one. -/
def disjunction : List Value → Value
  | [] => .none
  | [v] => v
  | v :: rest => if v.isGiven then v else disjunction rest

/-- Operands run together, with a blank between two of which neither is a text. -/
def runTogether : List Value → List Char
  | [] => []
  | [v] => v.operandText
  | v :: w :: rest => v.operandText ++ (if v.isText || w.isText then [] else [' ']) ++ runTogether (w :: rest)

/-- Operands with blanks between them, and the end of a line. -/
def line (args : List Value) : List Char :=
  (args.map Value.operandText).intersperse [' '] |>.flatten |> (· ++ ['\n'])

/-- The number of items of a value; a text is measured in bytes. -/
def lengthOf : Value → Except CallFault Value
  | .text s => .ok (.int (Text.Utf8.encode s).length)
  | .list items => .ok (.int items.length)
  | v => .error (.noLength v.kindName)

/-- The item at a place, which is counted from the end when it is negative. -/
def itemAt (bytes : Bool) (items : List Value) (key : Value) : Except CallFault Value :=
  match key.toInt? with
  | none => .error (.place bytes key.kindName)
  | some n =>
    if n < -(greatestWidth : Int) - 1 ∨ greatestWidth < n then .error .hugePlace
    else
      let place := if n < 0 then n + items.length else n
      if place < 0 then .error (.outside bytes)
      else
        match items[place.toNat]? with
        | some v => .ok v
        | none => .error (.outside bytes)

/-- The item of a value at a row of places; the items of a text are its bytes. -/
def itemOf (v : Value) : List Value → Except CallFault Value
  | [] => .ok v
  | key :: keys =>
    match v with
    | .text s =>
      (itemAt true ((Text.Utf8.encode s).map fun b => .int b.toNat) key).bind (itemOf · keys)
    | .list items => (itemAt false items key).bind (itemOf · keys)
    | v => .error (.noItems v.kindName)

/-- The text that a format and its arguments print. -/
def printf : List Value → Except CallFault Value
  | .text format :: args =>
    match formatted format args with
    | .ok s => .ok (.text s)
    | .error fault => .error (.format fault)
  | v :: _ => .error (.formatKind v.kindName)
  | [] => .ok .none

/-- Whether a relation holds between two values. -/
def compared (c : Value.Comparison) (a b : Value) : Except CallFault Value :=
  match Value.order a b with
  | .ok o => .ok (.bool (c.holds o))
  | .error (left, right) => .error (.unordered c.symbol left right)

/-- A function that takes any number of arguments and always has a value. -/
def anyArity (name : String) (value : List Value → Value) : Function :=
  ⟨name, { title := name, variadic := true }, fun args => .ok (value args)⟩

/-- A function of two arguments. -/
def binary (name : String) (value : Value → Value → Except CallFault Value) : Function :=
  ⟨name, { title := "<lambda>", required := ["a", "b"] }, fun args =>
    match args with
    | [a, b] => value a b
    | _ => .ok .none⟩

/-- The function for a way to make a name. -/
def namingFunction (naming : Project.Naming) : Function :=
  ⟨naming.word, { title := "_string_function.<locals>.call", required := ["value"] }, fun args =>
    match args with
    | [.text s] => .ok (.text (naming.apply s))
    | v :: _ => .error (.notText naming.word v.kindName)
    | [] => .ok .none⟩

/-- The functions that every template can call. -/
def builtins : List Function :=
  [anyArity "print" fun args => .text (runTogether args),
    ⟨"printf", { title := "_printf", required := ["fmt"], variadic := true }, printf⟩,
    anyArity "println" fun args => .text (line args),
    ⟨"len", { title := "_len", required := ["value"] }, fun args => lengthOf (args.headD .none)⟩,
    ⟨"index", { title := "_index", required := ["item"], variadic := true }, fun args =>
      itemOf (args.headD .none) args.tail⟩,
    ⟨"eq", { title := "_eq", required := ["first"], variadic := true }, equalsAny⟩,
    binary "ne" fun a b => .ok (.bool (!a.same b)),
    binary "lt" (compared .lt),
    binary "le" (compared .le),
    binary "gt" (compared .gt),
    binary "ge" (compared .ge),
    anyArity "and" conjunction,
    anyArity "or" disjunction,
    ⟨"not", { title := "<lambda>", required := ["a"] }, fun args =>
      .ok (.bool (!(args.headD .none).isGiven))⟩] ++
  Project.Naming.all.map namingFunction

/-- A table with one more function, which takes the place of one of its name. -/
def insertFunction (f : Function) : List Function → List Function
  | [] => [f]
  | g :: rest => if g.name = f.name then f :: rest else g :: insertFunction f rest

/-- The functions of templates together with further ones. -/
def functionTable (further : List Function) : List Function :=
  further.foldl (fun table f => insertFunction f table) builtins

/-- Whether a table has a function of a name. -/
def hasFunction (table : List Function) (name : List Char) : Bool :=
  table.any (·.name.toList = name)

/-- The function that a name stands for in a page; of two, the later one. -/
def callee? (table : List Function) (name : List Char) : Option Function :=
  table.reverse.find? fun f => calleeName f.name.toList = calleeName name

end Stencil.Template
