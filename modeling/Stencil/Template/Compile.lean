import Stencil.Template.Page

/-!
# Compiling templates

The pieces of a template become a page.  Open blocks are kept on a stack; each remembers how many dots it
binds at the moment and how many ends it owes.  A `with` block binds its value to a fresh dot and tests it.
-/

namespace Stencil.Template

/-- The word that opens a block. -/
inductive Keyword
  /-- A block for a value that is tested. -/
  | ifBlock
  /-- A block for a value that is tested and bound. -/
  | withBlock
deriving DecidableEq, Repr

namespace Keyword

/-- The word of a keyword. -/
def word : Keyword → String
  | ifBlock => "if"
  | withBlock => "with"

/-- The keyword of a word. -/
def ofWord? (w : List Char) : Option Keyword :=
  if w = ifBlock.word.toList then some ifBlock
  else if w = withBlock.word.toList then some withBlock
  else none

end Keyword

/-- An open block. -/
structure Block where
  /-- What opened it. -/
  keyword : Keyword
  /-- The dots it binds at the moment. -/
  dots : Nat := 0
  /-- The ends it owes. -/
  ends : Nat := 1
deriving DecidableEq, Repr

/-- Why a template is no page. -/
inductive CompileFault
  /-- Braces that open no action. -/
  | unclosedAction
  /-- A comment that does not end. -/
  | unclosedComment
  /-- A body that is no term. -/
  | term (fault : TermFault)
  /-- A block without a value. -/
  | noCondition (keyword : Keyword)
  /-- A division of a block outside of blocks. -/
  | strayElse
  /-- A division of a block that is not understood. -/
  | elseRest (rest : List Char)
  /-- An end with an argument. -/
  | endArgument
  /-- An end outside of blocks. -/
  | strayEnd
  /-- An action that is not supported. -/
  | unsupported (word : List Char)
  /-- A block that does not end. -/
  | openBlock (keyword : Keyword)
deriving DecidableEq, Repr

/-- A text in double braces. -/
def braced (s : String) : String :=
  "\x7b\x7b" ++ s ++ "\x7d\x7d"

/-- The wording of a compile fault. -/
def CompileFault.message : CompileFault → String
  | .unclosedAction => "unclosed action"
  | .unclosedComment => "unclosed comment"
  | .term fault => fault.message
  | .noCondition keyword => "missing value for " ++ keyword.word
  | .strayElse => "unexpected " ++ braced "else"
  | .elseRest rest => "unexpected " ++ braced ("else " ++ String.ofList rest)
  | .endArgument => "unexpected argument to " ++ braced "end"
  | .strayEnd => "unexpected " ++ braced "end"
  | .unsupported word => braced (String.ofList word) ++ " actions are not supported"
  | .openBlock keyword => "unexpected EOF: " ++ braced keyword.word ++ " is never closed"

/-- The words of actions that are not supported. -/
def unsupportedWords : List String :=
  ["range", "define", "template", "block", "break", "continue"]

/-- What a compiler knows after some pieces. -/
structure CompileState where
  /-- The open blocks, the innermost first. -/
  blocks : List Block := []
  /-- The dots bound at the moment, the innermost first. -/
  dots : List Nat := []
  /-- The number of dots bound so far. -/
  bindings : Nat := 0
deriving DecidableEq, Repr

namespace CompileState

/-- What names refer to at the moment. -/
def scope (state : CompileState) (isFunction : List Char → Bool) : Scope :=
  ⟨isFunction, state.dots.head?⟩

/-- The term of a body at the moment. -/
def term (state : CompileState) (isFunction : List Char → Bool) (body : List Char) : Except CompileFault Term :=
  match (state.scope isFunction).read body with
  | .ok t => .ok t
  | .error fault => .error (.term fault)

/-- The state in which a block no longer binds its dots, and the block. -/
def release (state : CompileState) (block : Block) : CompileState × Block :=
  ({ state with dots := state.dots.drop block.dots }, { block with dots := 0 })

/-- Opens an arm of a block that stands on top of `outer`; the value is computed with the dot around it. -/
def openArm (state : CompileState) (isFunction : List Char → Bool) (keyword : Keyword) (body : List Char)
    (block : Block) (outer : List Block) : Except CompileFault (CompileState × List Tag) := do
  let condition ← state.term isFunction body
  match keyword with
  | .ifBlock => .ok ({ state with blocks := block :: outer }, [.ifOpen condition])
  | .withBlock =>
    let binding := state.bindings + 1
    .ok ({ blocks := { block with dots := block.dots + 1 } :: outer, dots := binding :: state.dots,
           bindings := binding },
      [.assign binding condition, .ifOpen (.dot binding)])

/-- Compiles a division of a block. -/
def divide (state : CompileState) (isFunction : List Char → Bool) (rest : List Char) :
    Except CompileFault (CompileState × List Tag) :=
  match state.blocks with
  | [] => .error .strayElse
  | top :: outer =>
    let (state, block) := state.release top
    if rest.isEmpty then .ok ({ state with blocks := block :: outer }, [.elseOpen])
    else
      let (word, condition) := Text.splitWord rest
      match Keyword.ofWord? word, condition with
      | none, _ => .error (.elseRest rest)
      | _, [] => .error (.elseRest rest)
      | some .ifBlock, condition => do
        let t ← state.term isFunction condition
        .ok ({ state with blocks := block :: outer }, [.elifOpen t])
      | some .withBlock, condition => do
        let (state, tags) ← state.openArm isFunction .withBlock condition
          { block with ends := block.ends + 1 } outer
        .ok (state, .elseOpen :: tags)

/-- Compiles the end of a block. -/
def close (state : CompileState) (rest : List Char) : Except CompileFault (CompileState × List Tag) :=
  if !rest.isEmpty then .error .endArgument
  else
    match state.blocks with
    | [] => .error .strayEnd
    | top :: outer =>
      let (state, block) := state.release top
      .ok ({ state with blocks := outer }, List.replicate block.ends .endBlock)

/-- Whether the body of an action is a comment. -/
def isComment (body : List Char) : Bool :=
  "/*".toList.isPrefixOf body

/-- Compiles an action with the given body. -/
def action (state : CompileState) (isFunction : List Char → Bool) (body : List Char) :
    Except CompileFault (CompileState × List Tag) :=
  if isComment body then
    if "*/".toList.isSuffixOf body then .ok (state, []) else .error .unclosedComment
  else
    let (word, rest) := Text.splitWord body
    let rest := Text.trimEnd rest
    match Keyword.ofWord? word with
    | some keyword =>
      if rest.isEmpty then .error (.noCondition keyword)
      else state.openArm isFunction keyword rest { keyword } state.blocks
    | none =>
      if word = "else".toList then state.divide isFunction rest
      else if word = "end".toList then state.close rest
      else if unsupportedWords.contains (String.ofList word) then .error (.unsupported word)
      else do
        let t ← state.term isFunction body
        .ok (state, [.output t])

end CompileState

/-- Whether two characters stand side by side somewhere in a text. -/
def hasPair (a b : Char) : List Char → Bool
  | c :: d :: rest => (c = a && d = b) || hasPair a b (d :: rest)
  | _ => false

/-- Whether a text has to be printed as a literal, because a page would not copy it as data. -/
def needsLiteral (s : List Char) : Bool :=
  hasPair '\x7b' '%' s || hasPair '\x7b' '#' s || s.contains '\r' || s.getLast? = some '\x7b'

/-- The parts of a page for a text. -/
def textTags (s : List Char) : Except CompileFault (List Tag) :=
  if hasPair '\x7b' '\x7b' s then .error .unclosedAction
  else if s.isEmpty then .ok []
  else .ok [if needsLiteral s then .output (.text s) else .data s]

/-- The parts of a page for a piece. -/
def pieceTags (isFunction : List Char → Bool) (state : CompileState) :
    Piece → Except CompileFault (CompileState × List Tag)
  | .text s => (textTags s).map (state, ·)
  | .action a => state.action isFunction a.body

/-- The parts of a page for pieces, and the state behind them. -/
def compileFrom (isFunction : List Char → Bool) (state : CompileState) :
    List Piece → Except CompileFault (CompileState × List Tag)
  | [] => .ok (state, [])
  | piece :: rest => do
    let (state, tags) ← pieceTags isFunction state piece
    let (state, more) ← compileFrom isFunction state rest
    .ok (state, tags ++ more)

/-- The page of a template. -/
def compile (isFunction : List Char → Bool) (content : List Char) : Except CompileFault Page := do
  let (state, page) ← compileFrom isFunction {} (cut content)
  match state.blocks with
  | [] => .ok page
  | block :: _ => .error (.openBlock block.keyword)

end Stencil.Template
