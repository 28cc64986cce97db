import Stencil.Template.Term

/-!
# Pages

A page is the flat form of a template that is run: data that is copied, expressions that are printed, and
tags that open, divide and close conditional blocks.  Its source text shows every part on its own.
-/

namespace Stencil.Template

/-- A part of a page. -/
inductive Tag
  /-- Data that is copied. -/
  | data (s : List Char)
  /-- An expression that is printed. -/
  | output (t : Term)
  /-- The binding of a numbered dot. -/
  | assign (binding : Nat) (t : Term)
  /-- The opening of a conditional block. -/
  | ifOpen (t : Term)
  /-- A further arm of a conditional block. -/
  | elifOpen (t : Term)
  /-- The last arm of a conditional block. -/
  | elseOpen
  /-- The end of a conditional block. -/
  | endBlock
deriving Repr

/-- A page. -/
abbrev Page := List Tag

/-- The name of a constant in a page. -/
def Constant.source : Constant → List Char
  | .true => "true".toList
  | .false => "false".toList
  | .nil => "none".toList

/-- The name of a numbered dot in a page. -/
def dotName (binding : Nat) : List Char :=
  "_dot".toList ++ Text.digits 10 binding

/-- The name of a function in a page; operators of expressions are set apart. -/
def calleeName (function : List Char) : List Char :=
  if function = "and".toList ∨ function = "or".toList ∨ function = "not".toList then '_' :: function
  else function

/-- Texts with a comma and a blank between them. -/
def separated : List (List Char) → List Char
  | [] => []
  | [last] => last
  | first :: rest => first ++ ',' :: ' ' :: separated rest

mutual

/-- An expression in the source of a page. -/
def Term.source : Term → List Char
  | .text s => Text.quoted s
  | .numeral written => written
  | .field f => f.word.toList
  | .dot binding => dotName binding
  | .constant c => c.source
  | .call function args => calleeName function ++ '(' :: separated (Term.sources args) ++ [')']

/-- The sources of expressions. -/
def Term.sources : List Term → List (List Char)
  | [] => []
  | t :: rest => t.source :: Term.sources rest

end

/-- A tag between its marks. -/
def tagSource (inner : List Char) : List Char :=
  "\x7b% ".toList ++ inner ++ " %\x7d".toList

/-- The source of a part of a page. -/
def Tag.source : Tag → List Char
  | .data s => s
  | .output t => "\x7b\x7b ".toList ++ t.source ++ " \x7d\x7d".toList
  | .assign binding t => tagSource ("set ".toList ++ dotName binding ++ " = ".toList ++ t.source)
  | .ifOpen t => tagSource ("if ".toList ++ t.source)
  | .elifOpen t => tagSource ("elif ".toList ++ t.source)
  | .elseOpen => tagSource "else".toList
  | .endBlock => tagSource "endif".toList

/-- The source of a page. -/
def Page.source (page : Page) : List Char :=
  page.flatMap Tag.source

end Stencil.Template
