import Stencil.Data.Calendar
import Stencil.Text.Quoted
import Stencil.Text.Whole

/-!
# Places in a document

A document is read from left to right.  The column of a place matters as much as what stands there, because
the indentation of lines tells what belongs together.
-/

namespace Stencil.Data.Yaml

/-- Whether a character ends a line. -/
def isBreak (c : Char) : Bool :=
  c = '\n' || c = '\x85' || c = '\u2028' || c = '\u2029'

/-- Whether a line or the document ends here. -/
def atLineEnd : List Char → Bool
  | [] => true
  | c :: _ => isBreak c

/-- Whether a space stands here, or a line or the document ends. -/
def atSpace : List Char → Bool
  | [] => true
  | c :: _ => c = ' ' || isBreak c

/-- Whether a space or a tab stands here, or a line or the document ends. -/
def atBlank : List Char → Bool
  | [] => true
  | c :: _ => c = ' ' || c = '\t' || isBreak c

/-- Whether one of the given characters stands here. -/
def atAny (choices : List Char) : List Char → Bool
  | [] => false
  | c :: _ => choices.contains c

/-- A place in a document. -/
structure Cursor where
  /-- What stands from here on. -/
  rest : List Char
  /-- The number of characters before. -/
  index : Nat := 0
  /-- The number of lines before. -/
  line : Nat := 0
  /-- The number of characters before in the line; marks of the byte order do not count. -/
  column : Nat := 0
deriving Repr

namespace Cursor

/-- The place behind the next character. -/
def next (c : Cursor) : Cursor :=
  match c.rest with
  | [] => c
  | ch :: rest =>
    if isBreak ch then ⟨rest, c.index + 1, c.line + 1, 0⟩
    else if ch = '\uFEFF' then ⟨rest, c.index + 1, c.line, c.column⟩
    else ⟨rest, c.index + 1, c.line, c.column + 1⟩

/-- The place a number of characters further on. -/
def skip (c : Cursor) : Nat → Cursor
  | 0 => c
  | n + 1 => c.next.skip n

/-- The characters of a class from here on, and the place behind them. -/
def takeWhile (p : Char → Bool) (c : Cursor) : List Char × Cursor :=
  let found := c.rest.takeWhile p
  (found, c.skip found.length)

/-- The place behind the characters of a class. -/
def skipWhile (p : Char → Bool) (c : Cursor) : Cursor :=
  (c.takeWhile p).2

/-- The place behind spaces. -/
def skipSpaces (c : Cursor) : Cursor :=
  c.skipWhile (· = ' ')

/-- The place behind a comment that begins here. -/
def skipComment (c : Cursor) : Cursor :=
  if c.rest.head? = some '#' then c.skipWhile (!isBreak ·) else c

/-- The line end that stands here as it counts in a text, and the place behind it. -/
def takeBreak? (c : Cursor) : Option (Char × Cursor) :=
  match c.rest with
  | [] => none
  | ch :: _ => if isBreak ch then some (if ch = '\x85' then '\n' else ch, c.next) else none

/-- The place behind the line end that stands here, if one does. -/
def skipBreak (c : Cursor) : Cursor :=
  if c.rest.isEmpty then c else if atLineEnd c.rest then c.next else c

/-- Whether a line of three marks, with or without something behind it, stands here. -/
def atMarks (mark : Char) (c : Cursor) : Bool :=
  match c.rest with
  | a :: b :: d :: rest => a = mark && b = mark && d = mark && atBlank rest
  | _ => false

/-- Whether a document ends or another one begins here. -/
def atBoundary (c : Cursor) : Bool :=
  c.atMarks '-' || c.atMarks '.'

end Cursor

/-- Why a document cannot be read. -/
inductive Fault
  /-- It is not well formed, or its values cannot be made. -/
  | malformed
  /-- A code in a quoted text is beyond the last character. -/
  | character (code : Nat)
  /-- A day or a time does not exist. -/
  | calendar (fault : CalendarFault)
  /-- A word means no truth value. -/
  | flag (word : List Char)
  /-- Digits spell no whole number in their base. -/
  | whole (base : Nat) (digits : List Char)
  /-- A whole number has too many digits. -/
  | tooLong (digits : Nat)
  /-- A text spells no number. -/
  | number (text : List Char)
  /-- A number has no digits. -/
  | noDigits
  /-- A text is no day. -/
  | noDay
deriving DecidableEq, Repr

/-- The greatest code that fits a machine word. -/
def greatestWord : Nat := 0x7FFFFFFF

/-- The wording of a refusal; that of a malformed document says no more than that it is one. -/
def Fault.message : Fault → String
  | .malformed => "malformed document"
  | .character code =>
    if greatestWord < code then "Python int too large to convert to C int"
    else "chr() arg not in range(0x110000)"
  | .calendar fault => fault.message
  | .flag word => String.ofList (Text.quoted word)
  | .whole base digits =>
    "invalid literal for int() with base " ++ decimal base ++ ": " ++ String.ofList (Text.quoted digits)
  | .tooLong digits => Text.tooLongMessage digits
  | .number text => "could not convert string to float: " ++ String.ofList (Text.quoted text)
  | .noDigits => "string index out of range"
  | .noDay => "'NoneType' object has no attribute 'groupdict'"

/-- What reading gives. -/
abbrev Reading (α : Type) := Except Fault α

/-- Refuses a document. -/
def malformed {α : Type} : Reading α :=
  .error .malformed

/-- Goes on only if something holds. -/
def require (holds : Bool) : Reading Unit :=
  if holds then .ok () else malformed

end Stencil.Data.Yaml
