import Stencil.Data.Value
import Stencil.Decimal.Reader
import Stencil.Data.Form
import Stencil.Text.Whole

/-!
# Reading data text

Values separated by commas in brackets and braces.  A refusal names what was expected and where, counted
in characters, lines and columns.
-/

namespace Stencil.Data.Json

/-- Why a text holds no value. -/
inductive Cause
  /-- No value begins here. -/
  | value
  /-- No key begins here. -/
  | key
  /-- No colon follows a key. -/
  | colon
  /-- Neither a comma nor the end of a list or mapping. -/
  | comma
  /-- A string that does not end. -/
  | unterminated
  /-- A control character inside a string. -/
  | control
  /-- An unknown character behind a backslash. -/
  | escape
  /-- A code that is not four hexadecimal digits. -/
  | code
  /-- Something behind the value. -/
  | extra
  /-- A byte order mark at the head. -/
  | byteOrderMark
deriving DecidableEq, Repr

/-- The wording of a cause. -/
def Cause.message : Cause → String
  | .value => "Expecting value"
  | .key => "Expecting property name enclosed in double quotes"
  | .colon => "Expecting ':' delimiter"
  | .comma => "Expecting ',' delimiter"
  | .unterminated => "Unterminated string starting at"
  | .control => "Invalid control character at"
  | .escape => "Invalid \\escape"
  | .code => "Invalid \\uXXXX escape"
  | .extra => "Extra data"
  | .byteOrderMark => "Unexpected UTF-8 BOM (decode using utf-8-sig)"

/-- A refusal. -/
inductive Fault
  /-- Text of another form, at a number of characters from the start. -/
  | malformed (cause : Cause) (at_ : Nat)
  /-- A whole number of more digits than can be read. -/
  | tooLong (digits : Nat)
deriving DecidableEq, Repr

/-- The line and the column of an offset, both from one. -/
def lineColumn (s : List Char) (offset : Nat) : Nat × Nat :=
  let before := s.take offset
  (before.count '\n' + 1, (before.reverse.takeWhile (· ≠ '\n')).length + 1)

/-- The wording of a refusal of the text `s`. -/
def Fault.message (s : List Char) : Fault → String
  | .malformed cause offset =>
    let (line, column) := lineColumn s offset
    cause.message ++ ": line " ++ decimal line ++ " column " ++ decimal column ++ " (char " ++
      decimal offset ++ ")"
  | .tooLong digits => Text.tooLongMessage digits

/-- A place in a text: how far it is from the start, and what follows. -/
structure Place where
  /-- The number of characters before. -/
  offset : Nat
  /-- The characters behind. -/
  rest : List Char

/-- The place `count` characters on. -/
def Place.skip (p : Place) (count : Nat) : Place :=
  ⟨p.offset + count, p.rest.drop count⟩

/-- Whether a character separates parts of a data text. -/
def isSpace (c : Char) : Bool :=
  c = ' ' || c = '\t' || c = '\n' || c = '\r'

/-- The place behind separating characters. -/
def Place.skipSpace (p : Place) : Place :=
  p.skip (p.rest.takeWhile isSpace).length

/-- A code written with four hexadecimal digits. -/
def readCode? (s : List Char) : Option Nat :=
  let digits := s.take 4
  if digits.length < 4 then none
  else digits.foldl (fun code c => code.bind fun n => (Text.hexValue? c).map (16 * n + ·)) (some 0)

/-- The character of a code, when the code has one. -/
def charOfCode (n : Nat) : Char :=
  if n.isValidChar then Char.ofNat n else '\uFFFD'

/-- What stands behind a backslash: the characters meant and how many are read, or a fault. -/
def readEscape (offset opening : Nat) : List Char → Except Fault (Char × Nat)
  | [] => .error (.malformed .unterminated opening)
  | c :: rest =>
    match c with
    | '"' => .ok ('"', 1)
    | '\\' => .ok ('\\', 1)
    | '/' => .ok ('/', 1)
    | 'b' => .ok ('\x08', 1)
    | 'f' => .ok ('\x0c', 1)
    | 'n' => .ok ('\n', 1)
    | 'r' => .ok ('\r', 1)
    | 't' => .ok ('\t', 1)
    | 'u' =>
      match if (rest.drop 4).isEmpty then none else readCode? rest with
      | some high =>
        if 0xD800 ≤ high ∧ high < 0xDC00 then
          match rest.drop 4 with
          | '\\' :: 'u' :: more =>
            if (more.drop 4).isEmpty then .ok (charOfCode high, 5)
            else
              match readCode? more with
              | some low =>
                if 0xDC00 ≤ low ∧ low < 0xE000 then
                  .ok (charOfCode (0x10000 + (high - 0xD800) * 0x400 + (low - 0xDC00)), 11)
                else .ok (charOfCode high, 5)
              | none => .error (.malformed .code (offset + 7))
          | _ => .ok (charOfCode high, 5)
        else .ok (charOfCode high, 5)
      | none => .error (.malformed .code (offset + 1))
    | _ => .error (.malformed .escape offset)

/-- Whether a character stands for itself inside a string. -/
def isPlain (c : Char) : Bool :=
  c ≠ '"' && c ≠ '\\' && 0x20 ≤ c.toNat

/-- The characters of a string up to its closing mark; `opening` is the place of its opening mark. -/
def readString (opening : Nat) : (fuel : Nat) → Place → Except Fault (List Char × Place)
  | 0, _ => .error (.malformed .unterminated opening)
  | fuel + 1, p =>
    let plain := p.rest.takeWhile isPlain
    let offset := p.offset + plain.length
    match p.rest.dropWhile isPlain with
    | [] => .error (.malformed .unterminated opening)
    | c :: rest =>
      if c = '"' then .ok (plain, ⟨offset + 1, rest⟩)
      else if c = '\\' then do
        let (meant, count) ← readEscape offset opening rest
        let (chars, after) ← readString opening fuel ⟨offset + 1 + count, rest.drop count⟩
        .ok (plain ++ meant :: chars, after)
      else .error (.malformed .control offset)

/-- The length of the digits of a number's whole part: a zero, or digits that do not begin with one. -/
def wholeLength : List Char → Nat
  | [] => 0
  | c :: rest =>
    if c = '0' then 1
    else if Text.isAsciiDigit c then 1 + (rest.takeWhile Text.isAsciiDigit).length
    else 0

/-- The length of a point and the digits behind it. -/
def fractionLength : List Char → Nat
  | '.' :: rest =>
    let digits := (rest.takeWhile Text.isAsciiDigit).length
    if digits = 0 then 0 else digits + 1
  | _ => 0

/-- The length of an exponent. -/
def exponentLength : List Char → Nat
  | mark :: rest =>
    if mark = 'e' ∨ mark = 'E' then
      let sign := match rest with
        | '+' :: _ => 1
        | '-' :: _ => 1
        | _ => 0
      let digits := ((rest.drop sign).takeWhile Text.isAsciiDigit).length
      if digits = 0 then 0 else 1 + sign + digits
    else 0
  | [] => 0

/-- Reads a number. -/
def readNumber (p : Place) : Except Fault (Value × Place) :=
  let (negative, body) := match p.rest with
    | '-' :: rest => (true, rest)
    | rest => (false, rest)
  let sign := if negative then 1 else 0
  let whole := wholeLength body
  if whole = 0 then .error (.malformed .value p.offset)
  else
    let fraction := fractionLength (body.drop whole)
    let exponent := exponentLength (body.drop (whole + fraction))
    let count := whole + fraction + exponent
    let value :=
      if fraction = 0 ∧ exponent = 0 then
        let size : Int := Text.natOfDigits (body.take whole)
        Value.int (if negative then -size else size)
      else
        Value.float ((Decimal.readWritten? (body.take count)).elim .nan (·.value negative))
    if fraction = 0 ∧ exponent = 0 ∧ Text.mostDigits < whole then .error (.tooLong whole)
    else .ok (value, p.skip (sign + count))

/-- The named values. -/
def names : List (List Char × Value) :=
  [("null".toList, .null), ("true".toList, .bool true), ("false".toList, .bool false),
    ("NaN".toList, .float .nan), ("Infinity".toList, .float (.infinite false)),
    ("-Infinity".toList, .float (.infinite true))]

/-- The named value at the head of a text, with the length of its name. -/
def readName? (s : List Char) : Option (Value × Nat) :=
  (names.find? fun name => name.1.isPrefixOf s).map fun name => (name.2, name.1.length)

mutual

/-- Reads a value; `fuel` bounds the depth and the length of what is read. -/
def readValue : (fuel : Nat) → Place → Except Fault (Value × Place)
  | 0, p => .error (.malformed .value p.offset)
  | fuel + 1, p =>
    match p.rest with
    | [] => .error (.malformed .value p.offset)
    | c :: _ =>
      if c = '"' then do
        let (chars, after) ← readString p.offset p.rest.length (p.skip 1)
        .ok (.text (String.ofList chars), after)
      else if c = '[' then
        let inner := (p.skip 1).skipSpace
        match inner.rest with
        | ']' :: _ => .ok (.list [], inner.skip 1)
        | _ => do
          let (items, after) ← readItems fuel inner
          .ok (.list items, after)
      else if c = '\x7b' then
        let inner := (p.skip 1).skipSpace
        match inner.rest with
        | '\x7d' :: _ => .ok (.mapping [], inner.skip 1)
        | _ => do
          let (entries, after) ← readEntries fuel inner
          .ok (.mapping (Value.gather entries), after)
      else
        match readName? p.rest with
        | some (value, count) => .ok (value, p.skip count)
        | none => readNumber p

/-- Reads the items of a list and its end. -/
def readItems : (fuel : Nat) → Place → Except Fault (List Value × Place)
  | 0, p => .error (.malformed .value p.offset)
  | fuel + 1, p => do
    let (item, after) ← readValue fuel p
    let after := after.skipSpace
    match after.rest with
    | ']' :: _ => .ok ([item], after.skip 1)
    | ',' :: _ =>
      let (items, last) ← readItems fuel (after.skip 1).skipSpace
      .ok (item :: items, last)
    | _ => .error (.malformed .comma after.offset)

/-- Reads the entries of a mapping and its end. -/
def readEntries : (fuel : Nat) → Place → Except Fault (List (Value × Value) × Place)
  | 0, p => .error (.malformed .value p.offset)
  | fuel + 1, p =>
    match p.rest with
    | '"' :: _ => do
      let (key, after) ← readString p.offset p.rest.length (p.skip 1)
      let after := after.skipSpace
      match after.rest with
      | ':' :: _ =>
        let (item, after) ← readValue fuel (after.skip 1).skipSpace
        let after := after.skipSpace
        let entry := (Value.text (String.ofList key), item)
        match after.rest with
        | '\x7d' :: _ => .ok ([entry], after.skip 1)
        | ',' :: _ =>
          let (entries, last) ← readEntries fuel (after.skip 1).skipSpace
          .ok (entry :: entries, last)
        | _ => .error (.malformed .comma after.offset)
      | _ => .error (.malformed .colon after.offset)
    | _ => .error (.malformed .key p.offset)

end

/-- The value that a whole text holds. -/
def read (s : List Char) : Except Fault Value :=
  match s with
  | '\uFEFF' :: _ => .error (.malformed .byteOrderMark 0)
  | _ => do
    let (value, after) ← readValue (2 * s.length + 2) (Place.skipSpace ⟨0, s⟩)
    let after := after.skipSpace
    if after.rest.isEmpty then .ok value else .error (.malformed .extra after.offset)

end Stencil.Data.Json
