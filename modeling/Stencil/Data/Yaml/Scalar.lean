import Stencil.Data.Yaml.Cursor
import Stencil.Text.Hex
import Stencil.Text.Utf8

/-!
# Texts of a document

A text is written plainly, between quotes, or as a block of lines of one indentation.  A line end inside a
plain or quoted text counts as one space, and further ones as themselves.
-/

namespace Stencil.Data.Yaml

/-- A text and the place behind it. -/
abbrev Taken := List Char × Cursor

/-! ## Blocks -/

/-- How a block treats the line ends behind it. -/
inductive Tail
  /-- The first one is kept. -/
  | clip
  /-- All are kept. -/
  | keep
  /-- None is kept. -/
  | strip
deriving DecidableEq, Repr

/-- The treatment that a sign asks for. -/
def Tail.ofSign? : Char → Option Tail
  | '+' => some .keep
  | '-' => some .strip
  | _ => none

/-- The indentation that a digit asks for. -/
def increment? (c : Char) : Option Nat :=
  if '0' ≤ c ∧ c ≤ '9' then some (c.toNat - 48) else none

/-- The sign and the digit behind the mark of a block, in either order. -/
def blockHeader (c : Cursor) : Reading (Tail × Option Nat × Cursor) := do
  let (tail, increment, c) := match c.rest with
    | a :: rest =>
      match Tail.ofSign? a, increment? a with
      | some tail, _ =>
        match rest.head?.bind increment? with
        | some n => (tail, some n, c.skip 2)
        | none => (tail, none, c.skip 1)
      | none, some n =>
        match rest.head?.bind Tail.ofSign? with
        | some tail => (tail, some n, c.skip 2)
        | none => (.clip, some n, c.skip 1)
      | none, none => (.clip, none, c)
    | [] => (.clip, none, c)
  require (increment ≠ some 0 && atSpace c.rest)
  return (tail, increment, c)

/-- The place behind the rest of a line that holds nothing but a comment. -/
def skipRestOfLine (c : Cursor) : Reading Cursor := do
  let c := c.skipSpaces.skipComment
  require (atLineEnd c.rest)
  return c.skipBreak

/-- The line ends up to the first line that is not empty, and the widest indentation seen. -/
def leadingBreaks : (steps : Nat) → (widest : Nat) → Cursor → List Char × Nat × Cursor
  | 0, widest, c => ([], widest, c)
  | steps + 1, widest, c =>
    match c.takeBreak? with
    | some (ch, c) =>
      let (breaks, widest, c) := leadingBreaks steps widest c
      (ch :: breaks, widest, c)
    | none =>
      if c.rest.head? = some ' ' then leadingBreaks steps (max widest c.next.column) c.next
      else ([], widest, c)

/-- The place behind at most as many spaces as lead to a column. -/
def skipToColumn (column : Nat) (c : Cursor) : Cursor :=
  c.skip (min (column - c.column) (c.rest.takeWhile (· = ' ')).length)

/-- The line ends of lines that are empty up to a column, and the place in the line behind them. -/
def emptyLines (column : Nat) : (steps : Nat) → Cursor → List Char × Cursor
  | 0, c => ([], c)
  | steps + 1, c =>
    let c := skipToColumn column c
    match c.takeBreak? with
    | some (ch, c) =>
      let (breaks, c) := emptyLines column steps c
      (ch :: breaks, c)
    | none => ([], c)

/-- What stands between two lines of a block. -/
def joinLines (folded : Bool) (lineEnd breaks : List Char) (before after : List Char) : List Char :=
  if folded && lineEnd = ['\n'] && !atAny [' ', '\t'] before && !atAny [' ', '\t'] after then
    if breaks.isEmpty then [' '] else []
  else lineEnd

/-- The lines of a block from one that stands at its column, the last line end, the line ends behind it, and
the place behind the block. -/
def blockLines (folded : Bool) (column : Nat) : (steps : Nat) → Cursor →
    List Char × List Char × List Char × Cursor
  | 0, c => ([], [], [], c)
  | steps + 1, c =>
    let before := c.rest
    let (line, c) := c.takeWhile (!isBreak ·)
    let (lineEnd, c) := match c.takeBreak? with
      | some (ch, c) => ([ch], c)
      | none => ([], c)
    let (breaks, c) := emptyLines column c.rest.length c
    if c.column = column && !c.rest.isEmpty then
      let between := joinLines folded lineEnd breaks before c.rest
      let (lines, lineEnd, after, c) := blockLines folded column steps c
      (line ++ between ++ breaks ++ lines, lineEnd, after, c)
    else (line, lineEnd, breaks, c)

/-- The text of a block whose mark stands here, below an indentation. -/
def takeBlock (folded : Bool) (indent : Int) (c : Cursor) : Reading Taken := do
  let (tail, increment, c) ← blockHeader c.next
  let c ← skipRestOfLine c
  let least := (max (indent + 1) 1).toNat
  let (column, breaks, c) := match increment with
    | some n =>
      let column := least + n - 1
      let (breaks, c) := emptyLines column (c.rest.length + 1) c
      (column, breaks, c)
    | none =>
      let (breaks, widest, c) := leadingBreaks c.rest.length 0 c
      (max least widest, breaks, c)
  let (lines, lineEnd, after, c) :=
    if c.column = column && !c.rest.isEmpty then
      let (lines, lineEnd, after, c) := blockLines folded column c.rest.length c
      (breaks ++ lines, lineEnd, after, c)
    else ([], [], breaks, c)
  let ending := match tail with
    | .clip => lineEnd
    | .keep => lineEnd ++ after
    | .strip => []
  return (lines ++ ending, c)

/-! ## Quoted texts -/

/-- The character that a letter behind a backslash stands for. -/
def namedEscape? : Char → Option Char
  | '0' => some '\x00'
  | 'a' => some '\x07'
  | 'b' => some '\x08'
  | 't' => some '\t'
  | '\t' => some '\t'
  | 'n' => some '\n'
  | 'v' => some '\x0b'
  | 'f' => some '\x0c'
  | 'r' => some '\r'
  | 'e' => some '\x1b'
  | ' ' => some ' '
  | '"' => some '"'
  | '\\' => some '\\'
  | '/' => some '/'
  | 'N' => some '\x85'
  | '_' => some '\xa0'
  | 'L' => some '\u2028'
  | 'P' => some '\u2029'
  | _ => none

/-- The number of digits behind a letter behind a backslash. -/
def codeWidth? : Char → Option Nat
  | 'x' => some 2
  | 'u' => some 4
  | 'U' => some 8
  | _ => none

/-- The number that hexadecimal digits spell. -/
def hexNumber? (digits : List Char) : Option Nat :=
  digits.foldlM (fun n c => (Text.hexValue? c).map (16 * n + ·)) 0

/-- The character that a number of hexadecimal digits stands for. -/
def takeCode (width : Nat) (c : Cursor) : Reading (Char × Cursor) :=
  let digits := c.rest.take width
  if digits.length < width then malformed
  else
    match hexNumber? digits with
    | none => malformed
    | some code => if 0x10FFFF < code then .error (.character code) else .ok (Char.ofNat code, c.skip width)

/-- The line ends of empty lines inside a quoted text. -/
def quotedBreaks : (steps : Nat) → Cursor → Reading Taken
  | 0, _ => malformed
  | steps + 1, c =>
    if c.atBoundary then malformed
    else
      let c := c.skipWhile fun ch => ch = ' ' || ch = '\t'
      match c.takeBreak? with
      | some (ch, c) => do
        let (breaks, c) ← quotedBreaks steps c
        return (ch :: breaks, c)
      | none => .ok ([], c)

/-- A line end with the empty lines behind it, as it counts in a text that is folded. -/
def foldBreak (lineEnd : Char) (breaks : List Char) : List Char :=
  if lineEnd ≠ '\n' then lineEnd :: breaks else if breaks.isEmpty then [' '] else breaks

/-- Blanks inside a quoted text. -/
def quotedBlanks (c : Cursor) : Reading Taken := do
  let (blanks, c) := c.takeWhile fun ch => ch = ' ' || ch = '\t'
  if c.rest.isEmpty then malformed
  else
    match c.takeBreak? with
    | some (lineEnd, c) => do
      let (breaks, c) ← quotedBreaks (c.rest.length + 1) c
      return (foldBreak lineEnd breaks, c)
    | none => return (blanks, c)

/-- What a backslash stands for that was read just before. -/
def takeEscape (c : Cursor) : Reading Taken :=
  match c.rest with
  | [] => malformed
  | ch :: _ =>
    match namedEscape? ch, codeWidth? ch with
    | some found, _ => .ok ([found], c.next)
    | none, some width => do
      let (found, c) ← takeCode width c.next
      return ([found], c)
    | none, none => if isBreak ch then quotedBreaks (c.rest.length + 1) c.skipBreak else malformed

/-- A quoted text from a place inside it up to its last quote. -/
def takeQuotedRest (quote : Char) : (steps : Nat) → Cursor → Reading Taken
  | 0, _ => malformed
  | steps + 1, c =>
    match c.rest with
    | [] => malformed
    | ch :: rest =>
      if ch = quote then
        if quote = '\'' ∧ rest.head? = some '\'' then do
          let (text, c) ← takeQuotedRest quote steps (c.skip 2)
          return ('\'' :: text, c)
        else .ok ([], c.next)
      else if ch = ' ' || ch = '\t' || isBreak ch then do
        let (blanks, c) ← quotedBlanks c
        let (text, c) ← takeQuotedRest quote steps c
        return (blanks ++ text, c)
      else if quote = '"' ∧ ch = '\\' then do
        let (found, c) ← takeEscape c.next
        let (text, c) ← takeQuotedRest quote steps c
        return (found ++ text, c)
      else do
        let (text, c) ← takeQuotedRest quote steps c.next
        return (ch :: text, c)

/-- The text of a quoted text whose first quote stands here. -/
def takeQuoted (quote : Char) (c : Cursor) : Reading Taken :=
  takeQuotedRest quote (c.rest.length + 1) c.next

/-! ## Plain texts -/

/-- The characters that end a plain text inside brackets. -/
def flowMarks : List Char := [',', '?', '[', ']', '\x7b', '\x7d']

/-- Whether a plain text goes on here. -/
def isPlainHere (inFlow : Bool) (s : List Char) : Bool :=
  match s with
  | [] => false
  | ch :: rest =>
    !(atBlank s || ch = ':' && (atBlank rest || inFlow && atAny [',', '[', ']', '\x7b', '\x7d'] rest) ||
      inFlow && flowMarks.contains ch)

/-- The number of characters up to the end of a word of a plain text. -/
def plainWord (inFlow : Bool) : List Char → Nat
  | [] => 0
  | ch :: rest => if isPlainHere inFlow (ch :: rest) then plainWord inFlow rest + 1 else 0

/-- The line ends of empty lines inside a plain text, unless the document ends there. -/
def plainBreaks : (steps : Nat) → Cursor → Option (List Char) × Cursor
  | 0, c => (some [], c)
  | steps + 1, c =>
    if c.rest.head? = some ' ' then plainBreaks steps c.next
    else
      match c.takeBreak? with
      | some (ch, c) =>
        if c.atBoundary then (none, c)
        else
          let (breaks, c) := plainBreaks steps c
          (breaks.map (ch :: ·), c)
      | none => (some [], c)

/-- What stands between two words of a plain text: nothing, spaces, or line ends.  The last component says
whether a line end was passed. -/
def plainSpaces (c : Cursor) : List Char × Cursor × Bool :=
  let (spaces, c) := c.takeWhile (· = ' ')
  match c.takeBreak? with
  | some (lineEnd, c) =>
    if c.atBoundary then ([], c, true)
    else
      match plainBreaks c.rest.length c with
      | (none, c) => ([], c, true)
      | (some breaks, c) => (foldBreak lineEnd breaks, c, true)
  | none => (spaces, c, false)

/-- A plain text whose next word stands here behind some spaces.  The last component says whether a line end
was passed behind its last word. -/
def plainWords (inFlow : Bool) (indent : Nat) : (steps : Nat) → (spaces : List Char) → Cursor →
    (passed : Bool) → List Char × Cursor × Bool
  | 0, _, c, passed => ([], c, passed)
  | steps + 1, spaces, c, passed =>
    let width := if c.rest.head? = some '#' then 0 else plainWord inFlow c.rest
    if width = 0 then ([], c, passed)
    else
      let word := c.rest.take width
      let (between, c, passed) := plainSpaces (c.skip width)
      if between.isEmpty || c.rest.head? = some '#' || !inFlow && c.column < indent then
        (spaces ++ word, c, passed)
      else
        let (more, c, passed) := plainWords inFlow indent steps between c passed
        (spaces ++ word ++ more, c, passed)

/-- The text of a plain text that begins here, below an indentation; whether a line end was passed behind
it. -/
def takePlain (inFlow : Bool) (indent : Int) (c : Cursor) : List Char × Cursor × Bool :=
  plainWords inFlow (indent + 1).toNat c.rest.length [] c false

end Stencil.Data.Yaml
