import Stencil.Data.Yaml.Token

/-!
# The tokens of a document

A text that a colon follows in its line is a key, which shows only at the colon: the mark of the key is then
put in front of the text.  Until then the text is remembered as a possible key.  The indentation of the line
decides which lists and mappings end and whether a new one begins.
-/

namespace Stencil.Data.Yaml

/-- A token that may turn out to be the first one of a key. -/
structure PossibleKey where
  /-- The depth of brackets. -/
  depth : Nat
  /-- The number of tokens before. -/
  number : Nat
  /-- Whether it has to be a key, because it stands where keys of a mapping stand. -/
  required : Bool
  /-- Where it stands. -/
  start : Cursor
deriving Repr

/-- How far a document has been read into tokens. -/
structure Scan where
  /-- What is left. -/
  cursor : Cursor
  /-- The tokens so far. -/
  tokens : List Token := []
  /-- The depth of brackets. -/
  depth : Nat := 0
  /-- The indentation of the lines; before any it is less than nothing. -/
  indent : Int := -1
  /-- The indentations around, from the inside. -/
  indents : List Int := []
  /-- Whether a key may begin here. -/
  keyAllowed : Bool := true
  /-- The possible keys. -/
  keys : List PossibleKey := []
deriving Repr

namespace Scan

/-- The state with one more token. -/
def emit (s : Scan) (t : Token) : Scan :=
  { s with tokens := s.tokens ++ [t] }

/-- The state with one more token, behind a number of characters. -/
def emitAt (s : Scan) (t : Token) (width : Nat) : Scan :=
  { s.emit t with cursor := s.cursor.skip width }

/-- The state with a token put in front of others. -/
def insert (s : Scan) (number : Nat) (t : Token) : Scan :=
  { s with tokens := s.tokens.take number ++ t :: s.tokens.drop number }

/-- The characters that a key may have at most. -/
def longestKey : Nat := 1024

/-- Whether a possible key can no longer be one. -/
def isStale (s : Scan) (k : PossibleKey) : Bool :=
  k.start.line ≠ s.cursor.line || longestKey < s.cursor.index - k.start.index

/-- Forgets the possible keys that can no longer be keys; none of them may have to be one. -/
def forgetStale (s : Scan) : Reading Scan := do
  require (!s.keys.any fun k => s.isStale k && k.required)
  return { s with keys := s.keys.filter (!s.isStale ·) }

/-- Forgets the possible key at the depth of brackets; it may not have to be one. -/
def forgetKey (s : Scan) : Reading Scan := do
  require (!s.keys.any fun k => k.depth = s.depth && k.required)
  return { s with keys := s.keys.filter (·.depth ≠ s.depth) }

/-- Remembers that the next token may be the first one of a key. -/
def rememberKey (s : Scan) : Reading Scan :=
  if s.keyAllowed then do
    let required := s.depth = 0 && s.indent = s.cursor.column
    let s ← s.forgetKey
    return { s with keys := ⟨s.depth, s.tokens.length, required, s.cursor⟩ :: s.keys }
  else .ok s

/-- Ends the lists and mappings of lines whose indentation is greater than a column. -/
def unwindTo (column : Int) (s : Scan) : List Int → Scan
  | [] => s
  | around :: indents =>
    if column < s.indent then
      unwindTo column { s.emit .blockEnd with indent := around, indents } indents
    else s

/-- Ends the lists and mappings of lines that a column is not a part of. -/
def unwind (s : Scan) (column : Int) : Scan :=
  if s.depth = 0 then s.unwindTo column s.indents else s

/-- Takes a column as the indentation when it is greater; a token put in front of others then says what
begins there. -/
def indentTo (s : Scan) (column number : Nat) (t : Token) : Scan :=
  if s.indent < column then
    { s.insert number t with indent := column, indents := s.indent :: s.indents }
  else s

/-- The state behind a bracket or brace that opens. -/
def openBracket (s : Scan) (t : Token) : Reading Scan := do
  let s ← s.rememberKey
  return { s.emitAt t 1 with depth := s.depth + 1, keyAllowed := true }

/-- The state behind a bracket or brace that closes. -/
def closeBracket (s : Scan) (t : Token) : Reading Scan := do
  let s ← s.forgetKey
  return { s.emitAt t 1 with depth := s.depth - 1, keyAllowed := false }

/-- The state behind a comma. -/
def passComma (s : Scan) : Reading Scan := do
  let s ← s.forgetKey
  return { s.emitAt .comma 1 with keyAllowed := true }

/-- The state behind the mark of an item. -/
def passItem (s : Scan) : Reading Scan := do
  require (s.depth ≠ 0 || s.keyAllowed)
  let s := if s.depth = 0 then s.indentTo s.cursor.column s.tokens.length .blockList else s
  let s ← s.forgetKey
  return { s.emitAt .item 1 with keyAllowed := true }

/-- The state behind the mark of a key. -/
def passKey (s : Scan) : Reading Scan := do
  require (s.depth ≠ 0 || s.keyAllowed)
  let s := if s.depth = 0 then s.indentTo s.cursor.column s.tokens.length .blockMapping else s
  let s ← s.forgetKey
  return { s.emitAt .key 1 with keyAllowed := s.depth = 0 }

/-- The state behind the mark of a value. -/
def passValue (s : Scan) : Reading Scan :=
  match s.keys.find? (·.depth = s.depth) with
  | some k =>
    let s := { s with keys := s.keys.filter (·.depth ≠ s.depth) }
    let s := s.insert k.number .key
    let s := if s.depth = 0 then s.indentTo k.start.column k.number .blockMapping else s
    .ok { s.emitAt .value 1 with keyAllowed := false }
  | none => do
    require (s.depth ≠ 0 || s.keyAllowed)
    let s := if s.depth = 0 then s.indentTo s.cursor.column s.tokens.length .blockMapping else s
    let s ← s.forgetKey
    return { s.emitAt .value 1 with keyAllowed := s.depth = 0 }

/-- The state behind a token that may be the first one of a key. -/
def passContent (s : Scan) (take : Cursor → Reading TokenTaken) : Reading Scan := do
  let s ← s.rememberKey
  let (t, cursor) ← take s.cursor
  return { s.emit t with cursor, keyAllowed := false }

/-- The state behind a line that is no content. -/
def passLine (s : Scan) (take : Cursor → Reading TokenTaken) : Reading Scan := do
  let s ← (s.unwind (-1)).forgetKey
  let (t, cursor) ← take s.cursor
  return { s.emit t with cursor, keyAllowed := false }

/-- The state behind a block. -/
def passBlock (s : Scan) (folded : Bool) : Reading Scan := do
  let s ← s.forgetKey
  let (text, cursor) ← takeBlock folded s.indent s.cursor
  return { s.emit (.scalar text false) with cursor, keyAllowed := true }

/-- The state behind a plain text. -/
def passPlain (s : Scan) : Reading Scan := do
  let s ← s.rememberKey
  let (text, cursor, passed) := takePlain (s.depth ≠ 0) s.indent s.cursor
  return { s.emit (.scalar text true) with cursor, keyAllowed := passed }

/-- Passes spaces, comments and line ends. -/
def skipToToken (inLines : Bool) : (steps : Nat) → Cursor → (keyAllowed : Bool) → Cursor × Bool
  | 0, c, keyAllowed => (c, keyAllowed)
  | steps + 1, c, keyAllowed =>
    let c := c.skipSpaces.skipComment
    match c.takeBreak? with
    | some (_, c) => skipToToken inLines steps c (keyAllowed || inLines)
    | none => (c, keyAllowed)

/-- The characters that no plain text begins with, unless something else than a blank follows some of
them. -/
def plainBarred : List Char :=
  "-?:,[]\x7b\x7d#&*!|>'\"%@\x60".toList

/-- Whether a plain text begins here. -/
def isPlainStart (inFlow : Bool) (s : List Char) : Bool :=
  match s with
  | [] => false
  | ch :: rest =>
    !(atBlank s || plainBarred.contains ch) ||
      !atBlank rest && (ch = '-' || !inFlow && (ch = '?' || ch = ':'))

/-- A name put into a token. -/
def namedToken (make : List Char → Token) (c : Cursor) : Reading TokenTaken := do
  let (name, c) ← takeAnchor c
  return (make name, c)

/-- A quoted text as a token. -/
def quotedToken (quote : Char) (c : Cursor) : Reading TokenTaken := do
  let (text, c) ← takeQuoted quote c
  return (.scalar text false, c)

/-- The state behind the token that begins with a character. -/
def passToken (s : Scan) (ch : Char) (rest : List Char) : Reading Scan :=
  let atStart := s.cursor.column = 0
  let inFlow := s.depth ≠ 0
  if ch = '%' ∧ atStart then s.passLine takeDirection
  else if atStart ∧ s.cursor.atMarks '-' then s.passLine fun c => .ok (.documentStart, c.skip 3)
  else if atStart ∧ s.cursor.atMarks '.' then s.passLine fun c => .ok (.documentEnd, c.skip 3)
  else if ch = '[' then s.openBracket .listOpen
  else if ch = '\x7b' then s.openBracket .mappingOpen
  else if ch = ']' then s.closeBracket .listClose
  else if ch = '\x7d' then s.closeBracket .mappingClose
  else if ch = ',' then s.passComma
  else if ch = '-' ∧ atBlank rest then s.passItem
  else if ch = '?' ∧ (inFlow ∨ atBlank rest) then s.passKey
  else if ch = ':' ∧ (inFlow ∨ atBlank rest) then s.passValue
  else if ch = '*' then s.passContent (namedToken .reference)
  else if ch = '&' then s.passContent (namedToken .anchor)
  else if ch = '!' then s.passContent takeTag
  else if ch = '|' ∧ !inFlow then s.passBlock false
  else if ch = '>' ∧ !inFlow then s.passBlock true
  else if ch = '\'' ∨ ch = '"' then s.passContent (quotedToken ch)
  else if isPlainStart inFlow (ch :: rest) then s.passPlain
  else malformed

/-- The tokens from a state on; each token takes at least one character. -/
def run : (steps : Nat) → Scan → Reading (List Token)
  | 0, _ => malformed
  | steps + 1, s => do
    let (cursor, keyAllowed) := skipToToken (s.depth = 0) (s.cursor.rest.length + 1) s.cursor s.keyAllowed
    let s ← { s with cursor, keyAllowed }.forgetStale
    let s := s.unwind s.cursor.column
    match s.cursor.rest with
    | [] =>
      let s ← (s.unwind (-1)).forgetKey
      return (s.emit .streamEnd).tokens
    | ch :: rest => do run steps (← s.passToken ch rest)

end Scan

/-- Whether a character may stand in a document. -/
def isAllowed (c : Char) : Bool :=
  let n := c.toNat
  n = 9 || n = 10 || n = 13 || 0x20 ≤ n && n ≤ 0x7E || n = 0x85 || 0xA0 ≤ n && n ≤ 0xD7FF ||
    0xE000 ≤ n && n ≤ 0xFFFD || 0x10000 ≤ n

/-- The tokens of a document; a mark of the byte order at its head is passed over. -/
def tokens (document : List Char) : Reading (List Token) := do
  require (document.all isAllowed)
  let cursor : Cursor := match document with
    | '\uFEFF' :: rest => ⟨rest, 1, 0, 0⟩
    | document => ⟨document, 0, 0, 0⟩
  Scan.run (document.length + 1) { cursor }

end Stencil.Data.Yaml
