import Stencil.Data.Value
import Stencil.Decimal.Layout
import Stencil.Text.Quoted

/-!
# The written form of a value

Values inside messages: texts are quoted, lists stand in brackets and mappings in braces, and the absent
value and the truth values have their names.
-/

namespace Stencil.Data

/-- A whole number in decimal. -/
def intText (n : Int) : String :=
  String.ofList (Decimal.signText (n < 0) ++ Text.digits 10 n.natAbs)

/-- How one byte is written between marks. -/
def escapeByte (mark : Char) (b : UInt8) : List Char :=
  if b < 0x80 ∧ b ≠ 0x7F ∨ Char.ofNat b.toNat = mark then Text.escapeChar mark (Char.ofNat b.toNat)
  else '\\' :: 'x' :: Text.hexPadded 2 b.toNat

/-- The quoted form of a sequence of bytes. -/
def bytesForm (b : Bytes) : String :=
  let mark := Text.quoteMark (b.map fun x => Char.ofNat x.toNat)
  String.ofList ('b' :: mark :: b.flatMap (escapeByte mark) ++ [mark])

namespace Value

mutual

/-- The written form of a value. -/
def form : Value → String
  | null => "None"
  | bool b => if b then "True" else "False"
  | int n => intText n
  | float x => x.text
  | text s => Text.quotedString s
  | bytes b => bytesForm b
  | date d => d.form
  | moment m => m.form
  | list items => "[" ++ ", ".intercalate (forms items) ++ "]"
  | set members =>
    if members.isEmpty then "set()" else "\x7b" ++ ", ".intercalate (forms members) ++ "\x7d"
  | mapping entries => "\x7b" ++ ", ".intercalate (entryForms entries) ++ "\x7d"

/-- The written forms of the items of a list. -/
def forms : List Value → List String
  | [] => []
  | v :: rest => v.form :: forms rest

/-- The written forms of the entries of a mapping. -/
def entryForms : List (Value × Value) → List String
  | [] => []
  | (k, v) :: rest => (k.form ++ ": " ++ v.form) :: entryForms rest

end

/-- A value as it stands in a message: a text is not quoted there. -/
def display : Value → String
  | text s => s
  | v => v.form

end Value

end Stencil.Data
