import Stencil.Text.CaseTable
import Stencil.Text.Ranges

/-!
# Letter case

The full case maps: a letter may become several letters, and a capital sigma at the end of a word takes
its final form in lower case.
-/

namespace Stencil.Text

/-- The image of a code point under a case map given by runs and expansions. -/
def mapCase (runs : List CaseRun) (expansions : List (Nat × List Nat)) (n : Nat) : List Nat :=
  match expansions.find? (·.1 == n) with
  | some (_, images) => images
  | none => [(runs.findSome? (·.partner? n)).getD n]

/-- The upper-case form of a character. -/
def upperChar (c : Char) : List Char :=
  if c.toNat < 0x80 then [c.toUpper] else (mapCase upperRuns upperExpansions c.toNat).map Char.ofNat

/-- The lower-case form of a character that stands alone. -/
def lowerChar (c : Char) : List Char :=
  if c.toNat < 0x80 then [c.toLower] else (mapCase lowerRuns lowerExpansions c.toNat).map Char.ofNat

/-- Whether a character is passed over when the neighbours of a sigma are looked up. -/
def isCaseIgnorable (c : Char) : Bool :=
  inRanges caseIgnorableRanges c.toNat

/-- Whether a character is a letter with a case that is not passed over. -/
def isCased (c : Char) : Bool :=
  inRanges casedRanges c.toNat

/-- Whether the nearest character that counts, going along a text, is a letter with a case. -/
def meetsCased (s : List Char) : Bool :=
  match s.dropWhile isCaseIgnorable with
  | [] => false
  | c :: _ => isCased c

/-- The upper-case form of a text. -/
def upper (s : List Char) : List Char :=
  s.flatMap upperChar

/-- The lower-case form of a text that follows `before`, which is given backwards. -/
def lowerAfter (before : List Char) : List Char → List Char
  | [] => []
  | c :: rest =>
    (if c = 'Σ' then [if meetsCased before && !meetsCased rest then 'ς' else 'σ'] else lowerChar c) ++
      lowerAfter (c :: before) rest

/-- The lower-case form of a text. -/
def lower (s : List Char) : List Char :=
  lowerAfter [] s

/-- The lower-case form of a string. -/
def lowerString (s : String) : String :=
  String.ofList (lower s.toList)

/-- The upper-case form of a string. -/
def upperString (s : String) : String :=
  String.ofList (upper s.toList)

end Stencil.Text
