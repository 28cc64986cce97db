import Stencil.Data.Yaml.Scalar

/-!
# Tokens of a document

The marks of a document, its texts, and the marks that its indentation stands for: where a list or a mapping
of lines begins and ends.
-/

namespace Stencil.Data.Yaml

/-- The tag of a value as it is written: a handle, unless the tag is written in full, and what follows it. -/
structure WrittenTag where
  /-- The handle. -/
  handle : Option (List Char)
  /-- What follows it. -/
  suffix : List Char
deriving DecidableEq, Repr

/-- What a line of directions in front of a document says. -/
inductive Direction
  /-- The version of the format, by its first number. -/
  | version (major : Nat)
  /-- What a handle stands for. -/
  | handle (name start : List Char)
  /-- Anything else. -/
  | other
deriving DecidableEq, Repr

/-- A token. -/
inductive Token
  /-- A line of directions. -/
  | direction (d : Direction)
  /-- The line that begins a document. -/
  | documentStart
  /-- The line that ends a document. -/
  | documentEnd
  /-- The end of everything. -/
  | streamEnd
  /-- The first line of a list. -/
  | blockList
  /-- The first line of a mapping. -/
  | blockMapping
  /-- The end of the lines of a list or a mapping. -/
  | blockEnd
  /-- The bracket that opens a list. -/
  | listOpen
  /-- The bracket that closes a list. -/
  | listClose
  /-- The brace that opens a mapping. -/
  | mappingOpen
  /-- The brace that closes a mapping. -/
  | mappingClose
  /-- The mark of an item of a list of lines. -/
  | item
  /-- The comma between items. -/
  | comma
  /-- The mark of a key. -/
  | key
  /-- The mark of a value. -/
  | value
  /-- A name that stands for the value it was given to. -/
  | reference (name : List Char)
  /-- A name that is given to a value. -/
  | anchor (name : List Char)
  /-- A tag. -/
  | tag (t : WrittenTag)
  /-- A text, and whether it is written plainly. -/
  | scalar (text : List Char) (plain : Bool)
deriving DecidableEq, Repr

/-- A token and the place behind it. -/
abbrev TokenTaken := Token × Cursor

/-- Whether a character may stand in a name. -/
def isNameChar (c : Char) : Bool :=
  c.isAlphanum || c = '-' || c = '_'

/-- A name that is not empty. -/
def takeName (c : Cursor) : Reading Taken := do
  let (name, c) := c.takeWhile isNameChar
  require (!name.isEmpty)
  return (name, c)

/-- The characters that may follow the name of a value. -/
def behindName : List Char :=
  ['?', ':', ',', ']', '\x7d', '%', '@', '\x60']

/-- The name behind a mark. -/
def takeAnchor (c : Cursor) : Reading Taken := do
  let (name, c) ← takeName c.next
  require (atBlank c.rest || atAny behindName c.rest)
  return (name, c)

/-! ## Tags -/

/-- The characters beside letters and digits that may stand in a tag. -/
def tagMarks : List Char :=
  "-;/?:@&=+$,_.!~*'()[]%".toList

/-- Whether a character may stand in a tag. -/
def isTagChar (c : Char) : Bool :=
  c.isAlphanum || tagMarks.contains c

/-- The bytes of the escapes that stand here one behind the other. -/
def takeEscapedBytes : (steps : Nat) → Cursor → Reading (Bytes × Cursor)
  | 0, c => .ok ([], c)
  | steps + 1, c =>
    match c.rest with
    | '%' :: rest =>
      match rest with
      | a :: b :: _ =>
        match hexNumber? [a, b] with
        | some n => do
          let (bytes, c) ← takeEscapedBytes steps (c.skip 3)
          return (UInt8.ofNat n :: bytes, c)
        | none => malformed
      | _ => malformed
    | _ => .ok ([], c)

/-- The text of a tag, in which bytes may be escaped. -/
def takeTagText : (steps : Nat) → Cursor → Reading Taken
  | 0, c => .ok ([], c)
  | steps + 1, c =>
    match c.rest with
    | [] => .ok ([], c)
    | ch :: _ =>
      if ch = '%' then do
        let (bytes, c) ← takeEscapedBytes c.rest.length c
        match Text.Utf8.decode bytes with
        | .error _ => malformed
        | .ok text => do
          let (more, c) ← takeTagText steps c
          return (text ++ more, c)
      else if isTagChar ch then do
        let (more, c) ← takeTagText steps c.next
        return (ch :: more, c)
      else .ok ([], c)

/-- The text of a tag, which is not empty. -/
def takeTagUri (c : Cursor) : Reading Taken := do
  let (text, after) ← takeTagText c.rest.length c
  require (after.index ≠ c.index)
  return (text, after)

/-- The handle of a tag: a mark alone, or a name between two marks. -/
def takeHandle (c : Cursor) : Reading Taken :=
  match c.rest with
  | '!' :: ' ' :: _ => .ok (['!'], c.next)
  | '!' :: rest =>
    let name := rest.takeWhile isNameChar
    match rest.drop name.length with
    | '!' :: _ => .ok ('!' :: name ++ ['!'], c.skip (name.length + 2))
    | _ => malformed
  | _ => malformed

/-- Whether a mark stands before the next space. -/
def hasHandle : List Char → Bool
  | [] => false
  | c :: rest => if c = ' ' || isBreak c then false else c = '!' || hasHandle rest

/-- The tag that begins here. -/
def takeTag (c : Cursor) : Reading TokenTaken := do
  let (tag, c) ← match c.rest.tail with
    | '<' :: _ => do
      let (suffix, c) ← takeTagUri (c.skip 2)
      require (c.rest.head? = some '>')
      pure (WrittenTag.mk none suffix, c.next)
    | rest =>
      if atBlank rest then pure (WrittenTag.mk none ['!'], c.next)
      else if hasHandle rest then do
        let (handle, c) ← takeHandle c
        let (suffix, c) ← takeTagUri c
        pure (WrittenTag.mk (some handle) suffix, c)
      else do
        let (suffix, c) ← takeTagUri c.next
        pure (WrittenTag.mk (some ['!']) suffix, c)
  require (atSpace c.rest)
  return (.tag tag, c)

/-! ## Directions -/

/-- Digits, of which there is one at least. -/
def takeDigits (c : Cursor) : Reading Taken := do
  let (digits, c) := c.takeWhile fun ch => '0' ≤ ch && ch ≤ '9'
  require (!digits.isEmpty)
  return (digits, c)

/-- The version of the format. -/
def takeVersion (c : Cursor) : Reading (Direction × Cursor) := do
  let (major, c) ← takeDigits c.skipSpaces
  require (c.rest.head? = some '.')
  let (_, c) ← takeDigits c.next
  require (atSpace c.rest)
  return (.version (Text.natOfDigits major), c)

/-- What a handle stands for. -/
def takeHandleMeaning (c : Cursor) : Reading (Direction × Cursor) := do
  let (handle, c) ← takeHandle c.skipSpaces
  require (c.rest.head? = some ' ')
  let (start, c) ← takeTagUri c.skipSpaces
  require (atSpace c.rest)
  return (.handle handle start, c)

/-- The line of directions that begins here. -/
def takeDirection (c : Cursor) : Reading TokenTaken := do
  let (name, c) ← takeName c.next
  require (atSpace c.rest)
  let (direction, c) ←
    if name = "YAML".toList then takeVersion c
    else if name = "TAG".toList then takeHandleMeaning c
    else pure (.other, c.skipWhile (!isBreak ·))
  return (.direction direction, ← skipRestOfLine c)

end Stencil.Data.Yaml
