import Stencil.Disk.Path
import Stencil.Text.LetterCase

/-!
# Names derived from a project name

A project name is a row of parts with dashes between them.  Files and paths refer to the name itself and to
five names made from it: two spellings without dashes, and three that leave the first or the last part out.
-/

namespace Stencil.Project

/-- The parts of a name. -/
def parts (name : List Char) : List (List Char) :=
  Disk.splitAtChar '-' name

/-- The name with the given parts. -/
def ofParts (pieces : List (List Char)) : List Char :=
  Disk.joinWith '-' pieces

/-- A text with its first character in upper case. -/
def upperFirst : List Char → List Char
  | [] => []
  | c :: rest => Text.upperChar c ++ rest

/-- A text with its first character in lower case. -/
def lowerFirst : List Char → List Char
  | [] => []
  | c :: rest => Text.lower [c] ++ rest

/-- The parts run together, each with a capital at its head. -/
def pascalCase (name : List Char) : List Char :=
  (parts name).flatMap upperFirst

/-- The parts run together, each but the first with a capital at its head. -/
def camelCase (name : List Char) : List Char :=
  lowerFirst (pascalCase name)

/-- The parts behind the first one, run together; a single part stays as it is. -/
def skipFirst (name : List Char) : List Char :=
  match parts name with
  | _ :: next :: rest => camelCase (ofParts (next :: rest))
  | _ => name

/-- The parts before the last one; a single part stays as it is. -/
def skipLast (name : List Char) : List Char :=
  match parts name with
  | first :: next :: rest => ofParts (first :: next :: rest).dropLast
  | _ => name

/-- The parts between the first and the last one; of two parts the second is kept. -/
def skipFirstAndLast (name : List Char) : List Char :=
  match parts name with
  | [_, second] => second
  | _ :: next :: rest => ofParts (next :: rest).dropLast
  | _ => name

/-- A way to make a name from a project name. -/
inductive Naming
  /-- Parts run together, each with a capital. -/
  | pascalCase
  /-- Parts run together, each but the first with a capital. -/
  | camelCase
  /-- Without the first part. -/
  | skipFirst
  /-- Without the last part. -/
  | skipLast
  /-- Without the first and the last part. -/
  | skipFirstAndLast
deriving DecidableEq, Repr

namespace Naming

/-- All ways, in the order in which they are listed. -/
def all : List Naming :=
  [.pascalCase, .camelCase, .skipFirst, .skipLast, .skipFirstAndLast]

/-- The word for a way in templates. -/
def word : Naming → String
  | .pascalCase => "ToPascalCase"
  | .camelCase => "ToCamelCase"
  | .skipFirst => "SkipFirstPart"
  | .skipLast => "SkipLastPart"
  | .skipFirstAndLast => "SkipFirstAndLastPart"

/-- The name made from a project name. -/
def apply : Naming → List Char → List Char
  | .pascalCase => Project.pascalCase
  | .camelCase => Project.camelCase
  | .skipFirst => Project.skipFirst
  | .skipLast => Project.skipLast
  | .skipFirstAndLast => Project.skipFirstAndLast

end Naming

/-- A token of a path: the project name, or a name made from it. -/
abbrev Token := Option Naming

namespace Token

/-- All tokens, the plain name first. -/
def all : List Token :=
  none :: Naming.all.map some

/-- The word between the braces of a token. -/
def word : Token → String
  | none => "Name"
  | some naming => "Name_" ++ naming.word

/-- How a token is written. -/
def spelling (token : Token) : List Char :=
  "\x7b\x7b".toList ++ token.word.toList ++ "\x7d\x7d".toList

/-- What a token stands for. -/
def value (name : List Char) : Token → List Char
  | none => name
  | some naming => naming.apply name

end Token

end Stencil.Project
