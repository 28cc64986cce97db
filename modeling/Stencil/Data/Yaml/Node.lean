import Stencil.Data.Yaml.Tag
import Stencil.Data.Yaml.Tokens

/-!
# Nodes of a document

The tokens of a document form a tree of texts, lists and mappings, each with its tag.  A name that is given
to a node may stand for it later on, also inside the node itself.
-/

namespace Stencil.Data.Yaml

/-- A node. -/
inductive Node
  /-- A text. -/
  | scalar (tag : String) (text : List Char)
  /-- A list. -/
  | list (tag : String) (items : List Node)
  /-- A mapping. -/
  | mapping (tag : String) (entries : List (Node × Node))
  /-- The node of a name. -/
  | reference (name : List Char)
deriving Repr

/-- A document. -/
structure Document where
  /-- Its outermost node. -/
  root : Node
  /-- The nodes that have names. -/
  named : List (List Char × Node)
deriving Repr

/-- What handles of tags stand for. -/
abbrev Handles := List (List Char × List Char)

/-- The handles that need no direction. -/
def commonHandles : Handles :=
  [(['!'], ['!']), (['!', '!'], tagStart.toList)]

/-- How far tokens have been read into nodes. -/
structure Build where
  /-- The tokens left. -/
  tokens : List Token
  /-- What handles stand for. -/
  handles : Handles
  /-- The names given so far. -/
  names : List (List Char) := []
  /-- The nodes that have names, the last first. -/
  named : List (List Char × Node) := []

/-- A node and the state behind it. -/
abbrev Built := Node × Build

/-- The text that is not written. -/
def emptyNode : Node :=
  .scalar (plainTag []) []

namespace Build

/-- The state behind a number of tokens. -/
def drop (b : Build) (n : Nat := 1) : Build :=
  { b with tokens := b.tokens.drop n }

/-- Whether the next token is one of those given. -/
def isAt (b : Build) (choices : List Token) : Bool :=
  match b.tokens with
  | t :: _ => choices.contains t
  | [] => false

/-- The state behind a given token. -/
def expect (b : Build) (t : Token) : Reading Build :=
  if b.isAt [t] then .ok b.drop else malformed

/-- What is written in front of the content of a node. -/
structure Properties where
  /-- The name. -/
  anchor : Option (List Char) := none
  /-- The tag; a single mark asks for the tag that the content has by itself. -/
  tag : Option (List Char) := none

/-- The tag that is meant by a written one. -/
def meantTag (b : Build) (t : WrittenTag) : Reading (List Char) :=
  match t.handle with
  | none => .ok t.suffix
  | some handle =>
    match b.handles.lookup handle with
    | some start => .ok (start ++ t.suffix)
    | none => malformed

/-- A name and a tag, in either order. -/
def takeProperties (b : Build) : Reading (Properties × Build) :=
  match b.tokens with
  | .anchor name :: .tag t :: _ => do return (⟨some name, some (← b.meantTag t)⟩, b.drop 2)
  | .tag t :: .anchor name :: _ => do return (⟨some name, some (← b.meantTag t)⟩, b.drop 2)
  | .anchor name :: _ => .ok (⟨some name, none⟩, b.drop)
  | .tag t :: _ => do return (⟨none, some (← b.meantTag t)⟩, b.drop)
  | _ => .ok ({}, b)

/-- Whether a node gets its tag from its content. -/
def Properties.isImplicit (p : Properties) : Bool :=
  p.tag = none || p.tag = some ['!']

/-- The tag of a list or a mapping. -/
def Properties.collectionTag (p : Properties) (name : String) : String :=
  if p.isImplicit then tagOf name else (p.tag.map String.ofList).getD ""

/-- The tag of a text. -/
def Properties.scalarTag (p : Properties) (text : List Char) (plain : Bool) : String :=
  match p.tag with
  | none => if plain then plainTag text else tagOf "str"
  | some ['!'] => plainTag text
  | some tag => String.ofList tag

/-- Gives a name to the next node; no name is given twice. -/
def giveName (b : Build) : Option (List Char) → Reading Build
  | none => .ok b
  | some name => if b.names.contains name then malformed else .ok { b with names := name :: b.names }

/-- Keeps the node of a name. -/
def keep (p : Properties) (built : Built) : Built :=
  match p.anchor with
  | none => built
  | some name => (built.1, { built.2 with named := (name, built.1) :: built.2.named })

mutual

/-- A node. -/
def node (block bare : Bool) : (steps : Nat) → Build → Reading Built
  | 0, _ => malformed
  | steps + 1, b =>
    match b.tokens with
    | .reference name :: _ =>
      if b.names.contains name then .ok (.reference name, b.drop) else malformed
    | _ => do
      let (p, b) ← b.takeProperties
      let b ← b.giveName p.anchor
      let (content, b) ← content block bare steps p b
      return keep p (content, b)

/-- What stands behind the properties of a node. -/
def content (block bare : Bool) (steps : Nat) (p : Properties) (b : Build) : Reading Built :=
  match steps with
  | 0 => malformed
  | steps + 1 =>
    match b.tokens with
    | .scalar text plain :: _ => .ok (.scalar (p.scalarTag text plain) text, b.drop)
    | .listOpen :: _ => do
      let (items, b) ← flowItems true steps b.drop
      return (.list (p.collectionTag "seq") items, b)
    | .mappingOpen :: _ => do
      let (entries, b) ← flowEntries true steps b.drop
      return (.mapping (p.collectionTag "map") entries, b)
    | t :: _ =>
      if bare && t = .item then do
        let (items, b) ← bareItems steps b
        return (.list (p.collectionTag "seq") items, b)
      else if block && t = .blockList then do
        let (items, b) ← blockItems steps b.drop
        return (.list (p.collectionTag "seq") items, b)
      else if block && t = .blockMapping then do
        let (entries, b) ← blockEntries steps b.drop
        return (.mapping (p.collectionTag "map") entries, b)
      else if p.anchor.isSome || p.tag.isSome then
        .ok (.scalar (p.scalarTag [] true) [], b)
      else malformed
    | [] => malformed

/-- A node, unless one of some tokens shows that there is none. -/
def nodeUnless (stops : List Token) (block bare : Bool) : (steps : Nat) → Build → Reading Built
  | 0, _ => malformed
  | steps + 1, b => if b.isAt stops then .ok (emptyNode, b) else node block bare steps b

/-- The items of a list of lines. -/
def blockItems : (steps : Nat) → Build → Reading (List Node × Build)
  | 0, _ => malformed
  | steps + 1, b =>
    if b.isAt [.item] then do
      let (first, b) ← nodeUnless [.item, .blockEnd] true false steps b.drop
      let (more, b) ← blockItems steps b
      return (first :: more, b)
    else do return ([], ← b.expect .blockEnd)

/-- The items of a list of lines that stand at the indentation of the mapping around it. -/
def bareItems : (steps : Nat) → Build → Reading (List Node × Build)
  | 0, _ => malformed
  | steps + 1, b =>
    if b.isAt [.item] then do
      let (first, b) ← nodeUnless [.item, .key, .value, .blockEnd] true false steps b.drop
      let (more, b) ← bareItems steps b
      return (first :: more, b)
    else .ok ([], b)

/-- The entries of a mapping of lines. -/
def blockEntries : (steps : Nat) → Build → Reading (List (Node × Node) × Build)
  | 0, _ => malformed
  | steps + 1, b =>
    if b.isAt [.key] then do
      let (key, b) ← nodeUnless [.key, .value, .blockEnd] true true steps b.drop
      let (value, b) ← blockValue steps b
      let (more, b) ← blockEntries steps b
      return ((key, value) :: more, b)
    else if b.isAt [.blockEnd] then .ok ([], b.drop)
    else malformed

/-- The value of an entry of a mapping of lines. -/
def blockValue : (steps : Nat) → Build → Reading Built
  | 0, _ => malformed
  | steps + 1, b =>
    if b.isAt [.value] then nodeUnless [.key, .value, .blockEnd] true true steps b.drop
    else .ok (emptyNode, b)

/-- The value of an entry between brackets or braces; `stop` is the one that closes. -/
def flowValue (stop : Token) : (steps : Nat) → Build → Reading Built
  | 0, _ => malformed
  | steps + 1, b =>
    if b.isAt [.value] then nodeUnless [.comma, stop] false false steps b.drop else .ok (emptyNode, b)

/-- The items of a list in brackets. -/
def flowItems (first : Bool) : (steps : Nat) → Build → Reading (List Node × Build)
  | 0, _ => malformed
  | steps + 1, b =>
    if b.isAt [.listClose] then .ok ([], b.drop)
    else do
      let b ← if first then pure b else b.expect .comma
      if b.isAt [.key] then
        let (key, b) ← nodeUnless [.value, .comma, .listClose] false false steps b.drop
        let (value, b) ← flowValue .listClose steps b
        let (more, b) ← flowItems false steps b
        return (.mapping (tagOf "map") [(key, value)] :: more, b)
      else if b.isAt [.listClose] then return ([], b.drop)
      else
        let (item, b) ← node false false steps b
        let (more, b) ← flowItems false steps b
        return (item :: more, b)

/-- The entries of a mapping in braces. -/
def flowEntries (first : Bool) : (steps : Nat) → Build → Reading (List (Node × Node) × Build)
  | 0, _ => malformed
  | steps + 1, b =>
    if b.isAt [.mappingClose] then .ok ([], b.drop)
    else do
      let b ← if first then pure b else b.expect .comma
      if b.isAt [.key] then
        let (key, b) ← nodeUnless [.value, .comma, .mappingClose] false false steps b.drop
        let (value, b) ← flowValue .mappingClose steps b
        let (more, b) ← flowEntries false steps b
        return ((key, value) :: more, b)
      else if b.isAt [.mappingClose] then return ([], b.drop)
      else
        let (key, b) ← node false false steps b
        let (more, b) ← flowEntries false steps b
        return ((key, emptyNode) :: more, b)

end

/-- The directions in front of a document; the version is given once at most, and so is each handle. -/
def takeDirections (b : Build) : (directions : List Token) → (versioned : Bool) → Handles → Reading Build
  | .direction d :: rest, versioned, handles =>
    match d with
    | .version major =>
      if versioned || major ≠ 1 then malformed else takeDirections b rest true handles
    | .handle name start =>
      if (handles.lookup name).isSome then malformed
      else takeDirections b rest versioned (handles ++ [(name, start)])
    | .other => takeDirections b rest versioned handles
  | rest, _, handles => .ok { b with tokens := rest, handles := handles ++ commonHandles }

end Build

/-- Whether a token stands in front of a document, or in place of one. -/
def Token.isOutside : Token → Bool
  | .direction _ | .documentStart | .documentEnd | .streamEnd => true
  | _ => false

/-- Whether the next token stands outside of documents. -/
def Build.isOutside (b : Build) : Bool :=
  match b.tokens with
  | t :: _ => t.isOutside
  | [] => false

/-- The one document that tokens hold, if they hold any. -/
def documentOf (tokens : List Token) : Reading (Option Document) := do
  let steps := 4 * tokens.length + 4
  let start : Build := { tokens, handles := commonHandles }
  if start.isAt [.streamEnd] then return none
  else
    let (root, b) ←
      if start.isOutside && !start.isAt [.documentEnd] then do
        let b ← (← start.takeDirections tokens false []).expect .documentStart
        if b.isOutside then pure (emptyNode, b) else b.node true false steps
      else start.node true false steps
    require (b.tokens.dropWhile (· = .documentEnd) = [.streamEnd])
    return some ⟨root, b.named⟩

end Stencil.Data.Yaml
