import Stencil.Data.Form

/-!
# Writing values as data text

The compact form separates with a comma and a blank; the indented form puts every item on its own line.
-/

namespace Stencil.Data.Json

/-- How one character is written inside a string. -/
def escapeChar (c : Char) : List Char :=
  if c = '"' then ['\\', '"']
  else if c = '\\' then ['\\', '\\']
  else if c = '\n' then ['\\', 'n']
  else if c = '\r' then ['\\', 'r']
  else if c = '\t' then ['\\', 't']
  else if c = '\x0c' then ['\\', 'f']
  else if c = '\x08' then ['\\', 'b']
  else if c.toNat < 0x20 then '\\' :: 'u' :: Text.hexPadded 4 c.toNat
  else [c]

/-- A text between double marks. -/
def quoted (s : List Char) : List Char :=
  '"' :: s.flatMap escapeChar ++ ['"']

/-- A string between double marks. -/
def quotedString (s : String) : String :=
  String.ofList (quoted s.toList)

/-- The text of a binary number; infinities and what is no number have names. -/
def floatText : Decimal.Binary64 → String
  | .nan => "NaN"
  | .infinite negative => if negative then "-Infinity" else "Infinity"
  | x => x.text

/-- The text of a value that is neither a list nor a mapping. -/
def scalarText : Value → String
  | .null => "null"
  | .bool b => if b then "true" else "false"
  | .int n => intText n
  | .float x => floatText x
  | v => quotedString v.display

/-- The text of a key, which is always a string. -/
def keyText : Value → String
  | .text s => s
  | v => scalarText v

mutual

/-- The compact form of a value. -/
def compact : Value → String
  | .list items => "[" ++ ", ".intercalate (compactItems items) ++ "]"
  | .mapping entries => "\x7b" ++ ", ".intercalate (compactEntries entries) ++ "\x7d"
  | v => scalarText v

/-- The compact forms of the items of a list. -/
def compactItems : List Value → List String
  | [] => []
  | v :: rest => compact v :: compactItems rest

/-- The compact forms of the entries of a mapping. -/
def compactEntries : List (Value × Value) → List String
  | [] => []
  | (k, v) :: rest => (quotedString (keyText k) ++ ": " ++ compact v) :: compactEntries rest

end

/-- The lines between an opening and a closing bracket; all but the last item are followed by a comma. -/
def block (opening closing : String) (items : List (List String)) : List String :=
  if items.isEmpty then [opening ++ closing]
  else
    let indented (item : List String) := item.map ("  " ++ ·)
    let rec separated : List (List String) → List String
      | [] => []
      | [last] => last
      | item :: rest => item.dropLast ++ [item.getLast?.getD "" ++ ","] ++ separated rest
    opening :: separated (items.map indented) ++ [closing]

mutual

/-- The lines of the indented form of a value. -/
def indented : Value → List String
  | .list items => block "[" "]" (indentedItems items)
  | .mapping entries => block "\x7b" "\x7d" (indentedEntries entries)
  | v => [scalarText v]

/-- The lines of the items of a list. -/
def indentedItems : List Value → List (List String)
  | [] => []
  | v :: rest => indented v :: indentedItems rest

/-- The lines of the entries of a mapping. -/
def indentedEntries : List (Value × Value) → List (List String)
  | [] => []
  | (k, v) :: rest =>
    (match indented v with
      | [] => []
      | line :: lines => (quotedString (keyText k) ++ ": " ++ line) :: lines) :: indentedEntries rest

end

end Stencil.Data.Json
