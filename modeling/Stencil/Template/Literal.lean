import Stencil.Text.Escape
import Stencil.Data.Calendar

/-!
# Quoted literals

What a literal between double marks stands for.  A carriage return inside it ends a line, so it has to
stand behind a backslash.
-/

namespace Stencil.Template

/-- Why a quoted literal stands for nothing. -/
inductive LiteralFault
  /-- It holds the null character. -/
  | null
  /-- A line ends inside it; the line is counted from one. -/
  | unterminated (line : Nat)
  /-- An escape cannot be read; the last line is counted from one. -/
  | escape (fault : Text.EscapeFault) (lines : Nat)
deriving DecidableEq, Repr

/-- The wording of the reason of an escape fault. -/
def escapeReason : Text.EscapeReason → String
  | .shortByte => "truncated \\xXX escape"
  | .shortUnit => "truncated \\uXXXX escape"
  | .shortCode => "truncated \\UXXXXXXXX escape"
  | .beyondLast => "illegal Unicode character"
  | .malformedName => "malformed \\N character escape"
  | .unknownName => "unknown Unicode character name"

/-- The wording of a literal fault. -/
def LiteralFault.message : LiteralFault → String
  | .null => "source code string cannot contain null bytes"
  | .unterminated line =>
    "unterminated string literal (detected at line " ++ Data.decimal line ++ ") (<unknown>, line 1)"
  | .escape fault lines =>
    "(unicode error) 'unicodeescape' codec can't decode bytes in position " ++ Data.decimal fault.start ++
      "-" ++ Data.decimal (fault.stop - 1) ++ ": " ++ escapeReason fault.reason ++ " (<unknown>, line " ++
      Data.decimal lines ++ ")"

/-- The line of the first carriage return that no backslash stands before, if there is one. -/
def openLine? (line : Nat) : List Char → Option Nat
  | [] => none
  | '\\' :: c :: rest => openLine? (if c = '\r' then line + 1 else line) rest
  | c :: rest => if c = '\r' then some line else openLine? line rest

/-- What a literal stands for; `inner` is what stands between its marks. -/
def readLiteral (inner : List Char) : Except LiteralFault (List Char) :=
  if '\x00' ∈ inner then .error .null
  else
    match openLine? 1 inner with
    | some line => .error (.unterminated line)
    | none =>
      let lined := inner.map fun c => if c = '\r' then '\n' else c
      match Text.unescape lined with
      | .ok text => .ok text
      | .error fault => .error (.escape fault (1 + inner.count '\r'))

end Stencil.Template
