import Stencil.Proofs.Template.Expression

/-!
# The direct interpreter of templates

A template is a tree of texts, printed values and chains of arms.  The tree is built from the pieces of the
template with a stack of the chains that are open, and printed at once: a chain tests its conditions in
order and prints the first arm whose condition is given, or else its last part.  Only the arm of a `with`
sees the dot that the condition of the arm is bound to.
-/

namespace Stencil.Template.Direct

/-- A part of a template. -/
inductive Node
  /-- A text. -/
  | text (s : List Char)
  /-- A value that is printed. -/
  | value (e : Expr)
  /-- Arms, each with its word, its condition and what it prints, and what is printed when none holds. -/
  | chain (arms : List (Keyword × Expr × List Node)) (otherwise : List Node)
deriving Repr

/-- An arm of a chain. -/
abbrev Arm := Keyword × Expr × List Node

/-! ## Printing -/

/-- The dot in an arm: the value of its condition, if its word binds it, and else the dot around the arm. -/
def armDot (keyword : Keyword) (dot condition : Value) : Value :=
  match keyword with
  | .ifBlock => dot
  | .withBlock => condition

mutual

/-- The text of a part, if its functions have values. -/
def Node.print (p : Project.Parameters) (dot : Value) : Node → Option (List Char)
  | .text s => some s
  | .value e => (e.value p dot).map Value.printed
  | .chain arms otherwise => do
    match ← Node.printArms p dot arms with
    | some s => some s
    | none => Node.printAll p dot otherwise

/-- The text of some parts. -/
def Node.printAll (p : Project.Parameters) (dot : Value) : List Node → Option (List Char)
  | [] => some []
  | n :: rest => do
    let s ← n.print p dot
    let more ← Node.printAll p dot rest
    some (s ++ more)

/-- The text of the first arm whose condition is given, if there is one. -/
def Node.printArms (p : Project.Parameters) (dot : Value) : List Arm → Option (Option (List Char))
  | [] => some none
  | (keyword, condition, body) :: rest => do
    let v ← condition.value p dot
    if v.isGiven then (Node.printAll p (armDot keyword dot v) body).map some else Node.printArms p dot rest

end

/-! ## What actions ask for -/

/-- What an action asks for. -/
inductive Order
  /-- Nothing: the action is a comment. -/
  | nothing
  /-- A value is printed. -/
  | print (body : List Char)
  /-- A chain begins. -/
  | open (keyword : Keyword) (condition : List Char)
  /-- A chain goes on with a further arm. -/
  | next (keyword : Keyword) (condition : List Char)
  /-- A chain goes on with its last part. -/
  | otherwise
  /-- A chain ends. -/
  | close
deriving DecidableEq, Repr

/-- What the word `else` asks for with what stands behind it. -/
def elseOrder? (rest : List Char) : Option Order :=
  if rest.isEmpty then some .otherwise
  else
    let (word, condition) := Text.splitWord rest
    if condition.isEmpty then none else (Keyword.ofWord? word).map (.next · condition)

/-- What the body of an action asks for. -/
def order? (body : List Char) : Option Order :=
  if "/*".toList.isPrefixOf body then if "*/".toList.isSuffixOf body then some .nothing else none
  else
    let (word, behind) := Text.splitWord body
    let rest := Text.trimEnd behind
    match Keyword.ofWord? word with
    | some keyword => if rest.isEmpty then none else some (.open keyword rest)
    | none =>
      if word = "else".toList then elseOrder? rest
      else if word = "end".toList then if rest.isEmpty then some .close else none
      else if unsupportedWords.contains (String.ofList word) then none
      else some (.print body)

/-! ## Building -/

/-- A chain that is open. -/
structure OpenChain where
  /-- The parts before it, the last one first. -/
  before : List Node
  /-- Its complete arms, the last one first. -/
  arms : List Arm := []
  /-- The word and the condition of the arm that is open; none in the last part. -/
  head : Option (Keyword × Expr)
deriving Repr

namespace OpenChain

/-- Whether the arm that is open binds the dot. -/
def binds (o : OpenChain) : Bool :=
  o.head.any fun head => head.1 = .withBlock

/-- The chain once what is open holds `body`. -/
def close (o : OpenChain) (body : List Node) : Node :=
  match o.head with
  | some (keyword, condition) => .chain ((keyword, condition, body) :: o.arms).reverse []
  | none => .chain o.arms.reverse body

/-- The chain with a new head once the arm that is open holds `body`; behind the last part there is none. -/
def divide? (o : OpenChain) (body : List Node) (head : Option (Keyword × Expr)) : Option OpenChain :=
  o.head.map fun (keyword, condition) => { o with arms := (keyword, condition, body) :: o.arms, head }

end OpenChain

/-- A tree as far as it is built. -/
structure Draft where
  /-- The chains that are open, the innermost first. -/
  chains : List OpenChain := []
  /-- The parts in what is open, the last one first. -/
  parts : List Node := []
deriving Repr

namespace Draft

/-- Whether the dot is that of a `with` block. -/
def isBound (chains : List OpenChain) : Bool :=
  chains.any OpenChain.binds

/-- The expression of a body inside of some chains. -/
def read? (chains : List OpenChain) (body : List Char) : Option Expr :=
  expression? (hasFunction builtins) (isBound chains) body

/-- Does what an action asks for.  A condition is read outside of the arm that it belongs to. -/
def obey? (d : Draft) : Order → Option Draft
  | .nothing => some d
  | .print body => do
    let e ← read? d.chains body
    some { d with parts := .value e :: d.parts }
  | .open keyword condition => do
    let e ← read? d.chains condition
    some ⟨{ before := d.parts, head := some (keyword, e) } :: d.chains, []⟩
  | .next keyword condition =>
    match d.chains with
    | [] => none
    | o :: outer => do
      let e ← read? outer condition
      let o ← o.divide? d.parts.reverse (some (keyword, e))
      some ⟨o :: outer, []⟩
  | .otherwise =>
    match d.chains with
    | [] => none
    | o :: outer => do
      let o ← o.divide? d.parts.reverse none
      some ⟨o :: outer, []⟩
  | .close =>
    match d.chains with
    | [] => none
    | o :: outer => some ⟨outer, o.close d.parts.reverse :: o.before⟩

/-- Takes in one piece; a text in which an action seems to begin is refused. -/
def add? (d : Draft) : Piece → Option Draft
  | .text s => if hasPair '\x7b' '\x7b' s then none else some { d with parts := .text s :: d.parts }
  | .action a => (order? a.body).bind d.obey?

/-- The tree that some pieces complete; no chain may be open behind them. -/
def complete? (d : Draft) : List Piece → Option (List Node)
  | [] => if d.chains.isEmpty then some d.parts.reverse else none
  | piece :: rest => (d.add? piece).bind fun d => d.complete? rest

end Draft

/-- The tree of a template, if it is one. -/
def tree? (content : List Char) : Option (List Node) :=
  Draft.complete? {} (cut content)

/-- The text that the direct interpreter prints for a template and a project. -/
def render? (p : Project.Parameters) (content : List Char) : Option (List Char) := do
  let tree ← tree? content
  Node.printAll p .none tree

end Stencil.Template.Direct
