/-!
# Paths

A path is a text whose segments are separated by slashes.  Empty segments and single points mean nothing;
a slash at the head makes a path absolute, and exactly two slashes at the head are kept apart from one.
-/

namespace Stencil.Disk

/-- The pieces of a text between the occurrences of a character. -/
def splitAtChar (separator : Char) : List Char → List (List Char)
  | [] => [[]]
  | c :: rest =>
    if c = separator then [] :: splitAtChar separator rest
    else
      match splitAtChar separator rest with
      | [] => [[c]]
      | piece :: pieces => (c :: piece) :: pieces

/-- Pieces joined with a character between them. -/
def joinWith (separator : Char) : List (List Char) → List Char
  | [] => []
  | [piece] => piece
  | piece :: pieces => piece ++ separator :: joinWith separator pieces

theorem splitAtChar_ne_nil (separator : Char) (s : List Char) : splitAtChar separator s ≠ [] := by
  cases s with
  | nil => simp [splitAtChar]
  | cons c rest =>
      rw [splitAtChar]
      split
      · simp
      · split <;> simp

theorem joinWith_splitAtChar (separator : Char) (s : List Char) :
    joinWith separator (splitAtChar separator s) = s := by
  induction s with
  | nil => rfl
  | cons c rest induction =>
      cases pieces : splitAtChar separator rest with
      | nil => exact absurd pieces (splitAtChar_ne_nil separator rest)
      | cons piece more =>
          rw [pieces] at induction
          by_cases same : c = separator
          · rw [splitAtChar, if_pos same, pieces, joinWith, induction, same, List.nil_append]
            exact List.cons_ne_nil _ _
          · rw [splitAtChar, if_neg same, pieces, ← induction]
            cases more with
            | nil => rfl
            | cons next more => rfl

/-- The segments of a path that mean something. -/
def segments (path : List Char) : List (List Char) :=
  (splitAtChar '/' path).filter fun segment => !segment.isEmpty && segment ≠ ['.']

/-- The slashes at the head of a path that is written in its shortest way. -/
def rootOf : List Char → List Char
  | '/' :: '/' :: '/' :: _ => ['/']
  | '/' :: '/' :: _ => ['/', '/']
  | '/' :: _ => ['/']
  | _ => []

/-- Whether a path begins at the root. -/
def isAbsolute (path : List Char) : Bool :=
  path.head? = some '/'

/-- The last segment of a path, or nothing. -/
def lastSegment (path : List Char) : List Char :=
  (segments path).getLast?.getD []

/-- The extension of a file name: from the last point on, unless the name begins or ends with that point. -/
def extension (name : List Char) : List Char :=
  let after := (name.reverse.takeWhile (· ≠ '.')).reverse
  if after.isEmpty ∨ name.length ≤ after.length + 1 then [] else '.' :: after

/-- A path in its shortest way of writing. -/
def tidy (path : List Char) : List Char :=
  let text := rootOf path ++ joinWith '/' (segments path)
  if text.isEmpty then ['.'] else text

/-- A path in its shortest way of writing. -/
def tidyString (path : String) : String :=
  String.ofList (tidy path.toList)

end Stencil.Disk
