import Stencil.Template.Cut
import Stencil.Text.DecimalDigit
import Stencil.Text.Quoted

/-!
# Tokens of an action

The body of an action is a row of tokens with blanks between them where the writer likes.
-/

namespace Stencil.Template

/-- A token. -/
inductive Token
  /-- A literal between double marks, with its marks. -/
  | quoted (written : List Char)
  /-- A literal between back marks, without them. -/
  | raw (s : List Char)
  /-- Digits with an optional minus sign. -/
  | numeral (written : List Char)
  /-- Names with a point before each. -/
  | field (names : List (List Char))
  /-- A point that no name follows. -/
  | dot
  /-- A dollar sign and what is written behind it. -/
  | variable (name : List Char)
  /-- A word. -/
  | word (name : List Char)
  /-- An opening parenthesis. -/
  | opening
  /-- A closing parenthesis. -/
  | closing
  /-- A bar. -/
  | bar
deriving DecidableEq, Repr

/-- How a token is written. -/
def Token.written : Token → List Char
  | .quoted written => written
  | .raw s => rawMark :: s ++ [rawMark]
  | .numeral written => written
  | .field names => names.flatMap ('.' :: ·)
  | .dot => ['.']
  | .variable name => '$' :: name
  | .word name => name
  | .opening => ['(']
  | .closing => [')']
  | .bar => ['|']

/-- Whether a word can begin with a character. -/
def isWordStart (c : Char) : Bool :=
  c.isAlpha || c = '_'

/-- Whether a word can go on with a character. -/
def isWordPart (c : Char) : Bool :=
  c.isAlphanum || c = '_'

/-- A literal behind its opening mark, with its closing mark, on one line. -/
def readQuoted? : List Char → Option (List Char × List Char)
  | [] => none
  | '"' :: rest => some (['"'], rest)
  | '\\' :: c :: rest =>
    if c = '\n' then none
    else (readQuoted? rest).map fun (literal, rest) => ('\\' :: c :: literal, rest)
  | c :: rest =>
    if c = '\n' ∨ c = '\\' then none else (readQuoted? rest).map fun (literal, rest) => (c :: literal, rest)

/-- A literal behind its opening back mark, without its closing one. -/
def readRaw? : List Char → Option (List Char × List Char)
  | [] => none
  | c :: rest =>
    if c = rawMark then some ([], rest) else (readRaw? rest).map fun (literal, rest) => (c :: literal, rest)

/-- The names of a field, each behind a point; the number of names is bounded by `fuel`. -/
def readNames : (fuel : Nat) → List Char → List (List Char) × List Char
  | 0, s => ([], s)
  | fuel + 1, s =>
    match s with
    | '.' :: c :: rest =>
      if isWordStart c then
        let (names, after) := readNames fuel (rest.dropWhile isWordPart)
        ((c :: rest.takeWhile isWordPart) :: names, after)
      else ([], s)
    | _ => ([], s)

/-- The token at the head of a text. -/
def readToken? (s : List Char) : Option (Token × List Char) :=
  match s with
  | [] => none
  | c :: rest =>
    if c = '"' then (readQuoted? rest).map fun (literal, rest) => (.quoted ('"' :: literal), rest)
    else if c = rawMark then (readRaw? rest).map fun (literal, rest) => (.raw literal, rest)
    else if Text.isDecimalDigit c then
      some (.numeral (s.takeWhile Text.isDecimalDigit), s.dropWhile Text.isDecimalDigit)
    else if c = '-' then
      if (rest.head?.map Text.isDecimalDigit).getD false then
        some (.numeral ('-' :: rest.takeWhile Text.isDecimalDigit), rest.dropWhile Text.isDecimalDigit)
      else none
    else if c = '.' then
      match readNames s.length s with
      | ([], _) => some (.dot, rest)
      | (names, after) => some (.field names, after)
    else if c = '$' then some (.variable (rest.takeWhile isWordPart), rest.dropWhile isWordPart)
    else if isWordStart c then some (.word (c :: rest.takeWhile isWordPart), rest.dropWhile isWordPart)
    else if c = '(' then some (.opening, rest)
    else if c = ')' then some (.closing, rest)
    else if c = '|' then some (.bar, rest)
    else none

/-- The tokens of a text whose length `fuel` bounds, or the first character that begins no token. -/
def tokensOf : (fuel : Nat) → List Char → Except Char (List Token)
  | 0, _ => .ok []
  | fuel + 1, s =>
    let start := Text.trimStart s
    match start with
    | [] => .ok []
    | c :: _ =>
      match readToken? start with
      | none => .error c
      | some (token, rest) => (tokensOf fuel rest).map (token :: ·)

/-- The tokens of a body, or the first character that begins no token. -/
def tokens (body : List Char) : Except Char (List Token) :=
  tokensOf (body.length + 1) body

end Stencil.Template
