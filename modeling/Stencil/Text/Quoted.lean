import Stencil.Text.Hex
import Stencil.Text.Printable

/-!
# Quoted text

The quoted form of a text: between single marks, or between double marks when the text holds a single
mark and no double one.  Marks, backslashes, line ends and characters that are not printable are escaped.
-/

namespace Stencil.Text

/-- The mark that a text is quoted with. -/
def quoteMark (s : List Char) : Char :=
  if s.contains '\'' && !s.contains '"' then '"' else '\''

/-- How one character is written between two marks. -/
def escapeChar (mark c : Char) : List Char :=
  if c = mark || c = '\\' then ['\\', c]
  else if c = '\t' then ['\\', 't']
  else if c = '\n' then ['\\', 'n']
  else if c = '\r' then ['\\', 'r']
  else if isPrintable c then [c]
  else if c.toNat < 0x100 then '\\' :: 'x' :: hexPadded 2 c.toNat
  else if c.toNat < 0x10000 then '\\' :: 'u' :: hexPadded 4 c.toNat
  else '\\' :: 'U' :: hexPadded 8 c.toNat

/-- The quoted form of a text. -/
def quoted (s : List Char) : List Char :=
  quoteMark s :: s.flatMap (escapeChar (quoteMark s)) ++ [quoteMark s]

/-- The quoted form of a string. -/
def quotedString (s : String) : String :=
  String.ofList (quoted s.toList)

end Stencil.Text
