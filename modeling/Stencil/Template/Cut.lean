import Stencil.Text.Blank

/-!
# Cutting a template

A template is text with actions between double braces.  An action may ask that the space before or behind
it be dropped; its body may hold quoted literals, and the braces inside those do not end it.
-/

namespace Stencil.Template

/-- An action as it is found in a template. -/
structure Action where
  /-- What stands between the braces, without blanks at its ends. -/
  body : List Char
  /-- Whether the space before the action is dropped. -/
  trimsBefore : Bool
  /-- Whether the space behind the action is dropped. -/
  trimsAfter : Bool
deriving DecidableEq, Repr

/-- A part of a template. -/
inductive Piece
  /-- Text, with the space dropped that its neighbours do not want. -/
  | text (s : List Char)
  /-- An action. -/
  | action (a : Action)
deriving DecidableEq, Repr

/-- Whether a character is space that a trim mark drops. -/
def isSpace (c : Char) : Bool :=
  c = ' ' || c = '\t' || c = '\r' || c = '\n'

/-- The end of an action at the head of a text: whether it trims, and what follows. -/
def endAt? : List Char → Option (Bool × List Char)
  | '}' :: '}' :: rest => some (false, rest)
  | c :: '-' :: '}' :: '}' :: rest => if isSpace c then some (true, rest) else none
  | _ => none

/-- What a reader of a body is inside of. -/
inductive Mode
  /-- No literal. -/
  | plain
  /-- A literal between double marks. -/
  | quoted
  /-- A literal between double marks, behind a backslash. -/
  | escaped
  /-- A literal between back marks. -/
  | raw
deriving DecidableEq, Repr

/-- The mark around raw literals. -/
def rawMark : Char := '\x60'

/-- What a reader is inside of behind one more character, if the character may stand there. -/
def Mode.next? : Mode → Char → Option Mode
  | .plain, c => some (if c = '"' then .quoted else if c = rawMark then .raw else .plain)
  | .quoted, c => if c = '\n' then none else some (if c = '"' then .plain else if c = '\\' then .escaped else .quoted)
  | .escaped, _ => some .quoted
  | .raw, c => some (if c = rawMark then .plain else .raw)

/-- The body of an action, read up to the end of the action. -/
structure Body where
  /-- The characters of the body. -/
  text : List Char
  /-- Whether the end of the action trims. -/
  trims : Bool
  /-- What follows the action. -/
  rest : List Char
deriving DecidableEq, Repr

/-- A body with one more character at its head. -/
def Body.cons (c : Char) (b : Body) : Body :=
  { b with text := c :: b.text }

/-- The body of an action up to the first end that is not inside a literal. -/
def readBody? (mode : Mode) : List Char → Option Body
  | [] => none
  | c :: rest =>
    match if mode = .plain then endAt? (c :: rest) else none with
    | some (trims, after) => some ⟨[], trims, after⟩
    | none =>
      match mode.next? c with
      | none => none
      | some mode => (readBody? mode rest).map (.cons c)

/-- The body of a comment behind its opening, up to the first mark that the end of the action follows. -/
def readComment? : List Char → Option Body
  | [] => none
  | c :: rest =>
    let here := match c, rest with
      | '*', '/' :: inner => (endAt? inner).map fun found => ⟨['*', '/'], found.1, found.2⟩
      | _, _ => none
    match here with
    | some body => some body
    | none => (readComment? rest).map (.cons c)

/-- The body of an action that begins as a comment. -/
def readCommentBody? : List Char → Option Body
  | '/' :: '*' :: inner => (readComment? inner).map fun body => .cons '/' (.cons '*' body)
  | _ => none

/-- An action behind its opening braces and trim mark: a comment, or else any body. -/
def readUntrimmed? (s : List Char) : Option Body :=
  match readCommentBody? s with
  | some body => some body
  | none => readBody? .plain s

/-- An action behind its opening braces, and what follows it. -/
def readAction? (s : List Char) : Option (Action × List Char) :=
  let (trimsBefore, inner) := match s with
    | '-' :: c :: rest => if isSpace c then (true, rest) else (false, s)
    | _ => (false, s)
  (readUntrimmed? inner).map fun body => (⟨Text.trim body.text, trimsBefore, body.trims⟩, body.rest)

theorem endAt?_length_lt {s rest : List Char} {trims : Bool} (found : endAt? s = some (trims, rest)) :
    rest.length < s.length := by
  revert found
  unfold endAt?
  split
  · rintro ⟨⟩
    simp only [List.length_cons]
    omega
  · split
    · rintro ⟨⟩
      simp only [List.length_cons]
      omega
    · nofun
  · nofun

theorem readBody?_length_lt {mode : Mode} {s : List Char} {body : Body}
    (read : readBody? mode s = some body) : body.rest.length < s.length := by
  induction s generalizing mode body with
  | nil => cases read
  | cons c rest ih =>
    unfold readBody? at read
    split at read
    · rename_i ended
      cases read
      split at ended
      · exact endAt?_length_lt ended
      · cases ended
    · split at read
      · cases read
      · obtain ⟨inner, readInner, same⟩ := Option.map_eq_some_iff.1 read
        subst same
        have shorter := ih readInner
        exact Nat.lt_succ_of_lt shorter

theorem readComment?_length_lt {s : List Char} {body : Body} (read : readComment? s = some body) :
    body.rest.length < s.length := by
  induction s generalizing body with
  | nil => cases read
  | cons c rest ih =>
    unfold readComment? at read
    simp only at read
    split at read
    · rename_i here
      cases read
      split at here
      · obtain ⟨found, ended, same⟩ := Option.map_eq_some_iff.1 here
        subst same
        have := endAt?_length_lt ended
        simp only [List.length_cons]
        omega
      · cases here
    · obtain ⟨inner, readInner, same⟩ := Option.map_eq_some_iff.1 read
      subst same
      have shorter := ih readInner
      exact Nat.lt_succ_of_lt shorter

theorem readUntrimmed?_length_lt {s : List Char} {body : Body} (read : readUntrimmed? s = some body) :
    body.rest.length < s.length := by
  unfold readUntrimmed? at read
  split at read
  · rename_i comment
    cases read
    unfold readCommentBody? at comment
    split at comment
    · obtain ⟨inner, readInner, same⟩ := Option.map_eq_some_iff.1 comment
      subst same
      have := readComment?_length_lt readInner
      simp only [List.length_cons, Body.cons]
      omega
    · cases comment
  · exact readBody?_length_lt read

/-- What follows an action is shorter than the action and what follows it. -/
theorem readAction?_length_lt {s rest : List Char} {a : Action} (read : readAction? s = some (a, rest)) :
    rest.length < s.length := by
  unfold readAction? at read
  obtain ⟨found, readInner, same⟩ := Option.map_eq_some_iff.1 read
  cases same
  have shorter := readUntrimmed?_length_lt readInner
  refine Nat.lt_of_lt_of_le shorter ?_
  split
  · split
    · simp only [List.length_cons]
      omega
    · exact Nat.le_refl _
  · exact Nat.le_refl _

/-- The first action of a text, with the text before it and the text behind it. -/
def findAction? (s : List Char) : Option (List Char × Action × List Char) :=
  match s with
  | [] => none
  | c :: rest =>
    let here := match c, rest with
      | '\x7b', '\x7b' :: inner => readAction? inner
      | _, _ => none
    match here with
    | some (a, after) => some ([], a, after)
    | none => (findAction? rest).map fun (before, found) => (c :: before, found)

theorem findAction?_length_lt {s before after : List Char} {a : Action}
    (found : findAction? s = some (before, a, after)) : after.length < s.length := by
  induction s generalizing before with
  | nil => simp [findAction?] at found
  | cons c rest ih =>
    unfold findAction? at found
    simp only at found
    split at found
    · rename_i here
      cases found
      split at here
      · have := readAction?_length_lt here
        simp only [List.length_cons]
        omega
      · cases here
    · obtain ⟨⟨before', a', after'⟩, foundRest, same⟩ := Option.map_eq_some_iff.1 found
      cases same
      exact Nat.lt_succ_of_lt (ih foundRest)

/-- Cuts a text; `trims` says whether the action before it drops the space at its head. -/
def cutAfter (trims : Bool) (s : List Char) : List Piece :=
  let dropBefore (text : List Char) := if trims then Text.trimStartWith isSpace text else text
  match _found : findAction? s with
  | none => [.text (dropBefore s)]
  | some (before, a, after) =>
    let text := dropBefore before
    .text (if a.trimsBefore then Text.trimEndWith isSpace text else text) :: .action a ::
      cutAfter a.trimsAfter after
termination_by s.length
decreasing_by exact findAction?_length_lt _found

/-- Cuts a template into its texts and actions, which take turns; the first and the last piece are texts. -/
def cut (s : List Char) : List Piece :=
  cutAfter false s

end Stencil.Template
