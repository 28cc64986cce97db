import Stencil.Console.Symbols
import Stencil.Text.Quoted

/-!
# Marked text

Text for the console may hold marks in brackets that say how what follows is to look, and marks that end
those.  A bracket behind a backslash is no mark.  What shows is the text without its marks, with symbols in place
of their codes; how it looks is not kept here.
-/

namespace Stencil.Console

/-- A piece of marked text. -/
inductive Piece
  /-- Text between marks. -/
  | plain (s : List Char)
  /-- A mark: what stands before and behind an equals sign in its brackets, and where it begins. -/
  | mark (name : List Char) (value : Option (List Char)) (position : Nat)
deriving DecidableEq, Repr

/-- Whether a character may begin what stands in the brackets of a mark. -/
def beginsMark (c : Char) : Bool :=
  ('a' ≤ c && c ≤ 'z') || c = '#' || c = '/' || c = '@'

/-- The inside of the mark at the head of a text. -/
def markAtHead? : List Char → Option (List Char)
  | '[' :: c :: rest =>
    let body := rest.takeWhile fun d => d ≠ ']' && d ≠ '['
    if beginsMark c && (rest.drop body.length).head? = some ']' then some (c :: body) else none
  | _ => none

/-- The inside of a mark, cut at its first equals sign. -/
def markOf (inside : List Char) (position : Nat) : Piece :=
  let name := inside.takeWhile (· ≠ '=')
  let value := if name.length = inside.length then none else some (inside.drop (name.length + 1))
  .mark name value position

/-- Text as a piece, unless it is empty. -/
def plainPiece (s : List Char) : List Piece :=
  if s.isEmpty then [] else [.plain s]

/-- The pieces of a text from a position on; `before` is the text since the last mark, reversed. -/
def piecesFrom (position : Nat) (before : List Char) (s : List Char) : List Piece :=
  match s with
  | [] => plainPiece before.reverse
  | c :: rest =>
    let slashes := (s.takeWhile (· = '\\')).length
    match markAtHead? (s.drop slashes) with
    | some inside =>
      let count := slashes + inside.length + 2
      let mark := if slashes % 2 = 1 then .plain ('[' :: inside ++ [']'])
        else markOf inside (position + slashes)
      plainPiece before.reverse ++ plainPiece (List.replicate (slashes / 2) '\\') ++
        mark :: piecesFrom (position + count) [] (rest.drop (count - 1))
    | none => piecesFrom (position + 1) (c :: before) rest
termination_by s.length
decreasing_by
  · simp only [List.length_drop, List.length_cons]
    omega
  · simp

/-- The pieces of a text. -/
def pieces (s : List Char) : List Piece :=
  piecesFrom 0 [] s

/-- Why marked text cannot be shown. -/
inductive MarkupFault
  /-- A mark ends what no mark began. -/
  | unmatched (mark : List Char) (position : Nat)
  /-- A mark ends the last mark, and there is none. -/
  | nothingOpen (position : Nat)
deriving DecidableEq, Repr

/-- The wording of a failure. -/
def MarkupFault.message : MarkupFault → String
  | .unmatched mark position =>
    "closing tag '" ++ String.ofList mark ++ "' at position " ++ toString position ++
      " doesn't match any open tag"
  | .nothingOpen position => "closing tag '[/]' at position " ++ toString position ++ " has nothing to close"

/-- Styles that have a short and a long name. -/
def styleNames : List (String × String) :=
  [("b", "bold"), ("d", "dim"), ("i", "italic"), ("u", "underline"), ("uu", "underline2"), ("s", "strike"),
    ("r", "reverse"), ("c", "conceal"), ("o", "overline")]

/-- The name of a style: its long name in lower case without blanks around it. -/
def styleName (s : List Char) : List Char :=
  let name := Text.lower (Text.trim s)
  ((styleNames.lookup (String.ofList name)).map String.toList).getD name

/-- Text in which a bracket needs no backslash. -/
def unescape : List Char → List Char
  | '\\' :: '[' :: rest => '[' :: unescape rest
  | c :: rest => c :: unescape rest
  | [] => []

/-- Whether a character moves the place where text is shown. -/
def isControl (c : Char) : Bool :=
  let n := c.toNat
  n = 7 || n = 8 || n = 11 || n = 12 || n = 13

/-- Drops the last occurrence of a name at the head of a list that begins with the last mark. -/
def close? (name : List Char) : List (List Char) → Option (List (List Char))
  | [] => none
  | last :: before => if last = name then some before else (close? name before).map (last :: ·)

/-- The mark of a name and a value as it was written. -/
def writtenMark (name : List Char) (value : Option (List Char)) : List Char :=
  '[' :: name ++ value.elim [] ('=' :: ·) ++ [']']

/-- What pieces show; `opened` are the styles that have begun and not ended, the last one first. -/
def shownFrom (opened : List (List Char)) : List Piece → Except MarkupFault (List Char)
  | [] => .ok []
  | .plain s :: rest => (shownFrom opened rest).map (withSymbols (unescape s) ++ ·)
  | .mark ('/' :: name) value position :: rest =>
    if (Text.trim name).isEmpty then
      match opened with
      | [] => .error (.nothingOpen position)
      | _ :: before => shownFrom before rest
    else
      match close? (styleName name) opened with
      | none => .error (.unmatched (writtenMark ('/' :: name) value) position)
      | some before => shownFrom before rest
  | .mark name _ _ :: rest => shownFrom (styleName name :: opened) rest

/-- What marked text shows. -/
def shown (s : List Char) : Except MarkupFault (List Char) :=
  (shownFrom [] (pieces s)).map (·.filter (!isControl ·))

/-- Marked text that shows a text: backslashes keep its brackets from being marks. -/
def escapeFrom (s : List Char) : List Char :=
  match s with
  | [] => []
  | c :: rest =>
    let slashes := (s.takeWhile (· = '\\')).length
    match markAtHead? (s.drop slashes) with
    | some inside =>
      let count := slashes + inside.length + 2
      List.replicate (2 * slashes + 1) '\\' ++ '[' :: inside ++ ']' :: escapeFrom (rest.drop (count - 1))
    | none => c :: escapeFrom rest
termination_by s.length
decreasing_by
  · simp only [List.length_drop, List.length_cons]
    omega
  · simp

/-- Marked text that shows a text, and keeps a backslash at its end from what is put behind. -/
def escape (s : List Char) : List Char :=
  let escaped := escapeFrom s
  match escaped.reverse with
  | '\\' :: '\\' :: _ => escaped
  | '\\' :: _ => escaped ++ ['\\']
  | _ => escaped

end Stencil.Console
