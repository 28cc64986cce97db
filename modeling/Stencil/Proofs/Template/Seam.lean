import Stencil.Proofs.Text.Trim
import Stencil.Template.Cut

/-!
# Texts behind templates

An action that begins in a text may be left open at the end of the text, and then what is written behind
the text decides where the action ends.  Where none is left open, a text that ends in a letter is cut in
the same way whatever is written behind it.
-/

namespace Stencil.Template

/-! ## Actions that are left open -/

/-- Whether the reader of a body comes to the end of a text without a reason to stop before. -/
def runsOut (mode : Mode) : List Char → Bool
  | [] => true
  | c :: rest =>
    if mode = .plain ∧ (endAt? (c :: rest)).isSome then false
    else
      match mode.next? c with
      | none => false
      | some mode => runsOut mode rest

/-- A text behind the opening braces of an action, without a trim mark at its head. -/
def untrimmed : List Char → List Char
  | '-' :: c :: rest => if isSpace c then rest else '-' :: c :: rest
  | s => s

/-- Whether an action is left open at the end of a text, where it is read behind its braces and its trim
mark: a comment without its end, even if the text ends an action of another kind, or a body without its
end. -/
def isOpen : List Char → Bool
  | '/' :: '*' :: rest => (readComment? rest).isNone
  | s => runsOut .plain s

/-- Whether an action is left open that begins at or before the first action of a text. -/
def opensFirst : List Char → Bool
  | [] => false
  | '\x7b' :: '\x7b' :: inner =>
    isOpen (untrimmed inner) || (readAction? inner).isNone && opensFirst ('\x7b' :: inner)
  | _ :: rest => opensFirst rest

/-- Whether an action is left open at the end of a text. -/
def leavesOpen (s : List Char) : Bool :=
  opensFirst s ||
    match _found : findAction? s with
    | none => false
    | some (_, _, after) => leavesOpen after
termination_by s.length
decreasing_by exact findAction?_length_lt _found

/-! ## Texts that end in a letter -/

/-- Whether a text ends in an ASCII letter. -/
def EndsInLetter (s : List Char) : Prop :=
  s.getLast?.any Char.isAlpha = true

theorem not_endsInLetter_nil : ¬EndsInLetter [] := by
  simp [EndsInLetter]

theorem endsInLetter_singleton {c : Char} (ends : EndsInLetter [c]) : c.isAlpha = true := by
  simpa [EndsInLetter] using ends

theorem EndsInLetter.of_append {front s : List Char} (ends : EndsInLetter (front ++ s)) (some : s ≠ []) :
    EndsInLetter s := by
  cases last : s.getLast? with
  | none => exact absurd (List.getLast?_eq_none_iff.mp last) some
  | some c =>
      rw [EndsInLetter, List.getLast?_append, last] at ends
      rw [EndsInLetter, last]
      exact ends

theorem EndsInLetter.tail {c : Char} {s : List Char} (ends : EndsInLetter (c :: s)) (some : s ≠ []) :
    EndsInLetter s := by
  rw [← List.singleton_append] at ends
  exact ends.of_append some

/-- What stands behind a character that is no letter is no empty text. -/
theorem EndsInLetter.behind {front s : List Char} {c : Char} (ends : EndsInLetter (front ++ c :: s))
    (noLetter : c.isAlpha = false) : EndsInLetter s := by
  have last : EndsInLetter (c :: s) := ends.of_append (List.cons_ne_nil c s)
  cases s with
  | nil =>
      have letter := endsInLetter_singleton last
      rw [noLetter] at letter
      cases letter
  | cons d s => exact last.tail (List.cons_ne_nil d s)

theorem EndsInLetter.behind_pair {c d : Char} {s : List Char} (ends : EndsInLetter (c :: d :: s))
    (noLetter : d.isAlpha = false) : EndsInLetter s := by
  have behindFirst : EndsInLetter ([c] ++ d :: s) := ends
  exact behindFirst.behind noLetter

/-- What begins without letters begins so without the text behind a letter. -/
theorem EndsInLetter.split {s more front r : List Char} (ends : EndsInLetter s)
    (same : s ++ more = front ++ r)
    (noLetters : ∀ c ∈ front, c.isAlpha = false) : ∃ rest, s = front ++ rest ∧ r = rest ++ more := by
  rcases List.append_eq_append_iff.mp same with ⟨middle, whole, -⟩ | ⟨rest, whole, behind⟩
  · rw [EndsInLetter] at ends
    cases last : s.getLast? with
    | none => simp [last] at ends
    | some c =>
        rw [last] at ends
        have member : c ∈ front := whole ▸ List.mem_append_left middle (List.mem_of_getLast? last)
        have noLetter := noLetters c member
        rw [Option.any_some, noLetter] at ends
        cases ends
  · exact ⟨rest, whole, behind⟩

/-- Two characters that are no letters. -/
theorem isAlpha_of_mem_pair {a b : Char} (first : a.isAlpha = false) (second : b.isAlpha = false) :
    ∀ c ∈ [a, b], c.isAlpha = false := by
  simp [first, second]

theorem isAlpha_of_isSpace {c : Char} (space : isSpace c = true) : c.isAlpha = false := by
  simp only [isSpace, Bool.or_eq_true, decide_eq_true_eq] at space
  rcases space with ((rfl | rfl) | rfl) | rfl <;> rfl

theorem isSpace_eq_false {c : Char} (letter : c.isAlpha = true) : isSpace c = false := by
  cases space : isSpace c with
  | false => rfl
  | true =>
      rw [isAlpha_of_isSpace space] at letter
      cases letter

/-! ## Ends of actions -/

theorem endAt?_eq_some {s rest : List Char} {trims : Bool} (found : endAt? s = some (trims, rest)) :
    ∃ mark, s = mark ++ rest ∧ (trims = false ∧ mark = ['}', '}'] ∨
      trims = true ∧ ∃ c, isSpace c = true ∧ mark = [c, '-', '}', '}']) := by
  unfold endAt? at found
  split at found
  · cases found
    exact ⟨['}', '}'], rfl, .inl ⟨rfl, rfl⟩⟩
  · rename_i c rest
    split at found
    · rename_i space
      cases found
      exact ⟨[c, '-', '}', '}'], rfl, .inr ⟨rfl, c, space, rfl⟩⟩
    · cases found
  · cases found

theorem endAt?_braces (rest : List Char) : endAt? ('}' :: '}' :: rest) = some (false, rest) := rfl

theorem endAt?_mark {c : Char} (space : isSpace c = true) (rest : List Char) :
    endAt? (c :: '-' :: '}' :: '}' :: rest) = some (true, rest) := by
  simp [endAt?, space]

theorem endAt?_append {s : List Char} (ends : EndsInLetter s) (more : List Char) :
    endAt? (s ++ more) = (endAt? s).map fun found => (found.1, found.2 ++ more) := by
  cases found : endAt? s with
  | some result =>
      obtain ⟨trims, rest⟩ := result
      obtain ⟨mark, rfl, ⟨rfl, rfl⟩ | ⟨rfl, c, space, rfl⟩⟩ := endAt?_eq_some found
      · exact endAt?_braces _
      · exact endAt?_mark space _
  | none =>
      cases foundLater : endAt? (s ++ more) with
      | none => rfl
      | some result =>
          obtain ⟨trims, r⟩ := result
          obtain ⟨mark, whole, ⟨rfl, rfl⟩ | ⟨rfl, c, space, rfl⟩⟩ := endAt?_eq_some foundLater
          · obtain ⟨rest, rfl, -⟩ := ends.split whole (isAlpha_of_mem_pair rfl rfl)
            cases found
          · obtain ⟨rest, rfl, -⟩ := ends.split whole (by simp [isAlpha_of_isSpace space])
            exact absurd ((endAt?_mark space rest).symm.trans found) (by simp)

/-! ## Bodies -/

/-- A body with more text behind its action. -/
def Body.extend (b : Body) (more : List Char) : Body :=
  { b with rest := b.rest ++ more }

theorem readBody?_append {mode : Mode} {s : List Char} (ends : EndsInLetter s)
    (stops : runsOut mode s = false) (more : List Char) :
    readBody? mode (s ++ more) = (readBody? mode s).map (·.extend more) := by
  induction s generalizing mode with
  | nil => exact absurd ends not_endsInLetter_nil
  | cons c rest induction =>
      have stable : (if mode = .plain then endAt? (c :: (rest ++ more)) else none) =
          (if mode = .plain then endAt? (c :: rest) else none).map
            fun found => (found.1, found.2 ++ more) := by
        split
        · exact endAt?_append ends more
        · rfl
      rw [List.cons_append, readBody?, readBody?, stable]
      cases ended : if mode = .plain then endAt? (c :: rest) else none with
      | some found => rfl
      | none =>
          have goesOn : ¬(mode = .plain ∧ (endAt? (c :: rest)).isSome) := by
            rintro ⟨plain, some⟩
            rw [if_pos plain] at ended
            simp [ended] at some
          rw [runsOut, if_neg goesOn] at stops
          simp only [Option.map_none]
          cases next : mode.next? c with
          | none => rfl
          | some mode' =>
              simp only [next] at stops
              have behind : rest ≠ [] := by
                rintro rfl
                cases stops
              simp only [induction (ends.tail behind) stops, Option.map_map]
              rfl

theorem readBody?_eq_some {mode : Mode} {s : List Char} {body : Body}
    (read : readBody? mode s = some body) :
    ∃ front, s = front ++ '}' :: body.rest := by
  induction s generalizing mode body with
  | nil => cases read
  | cons c rest induction =>
      rw [readBody?] at read
      split at read
      · rename_i ended
        cases read
        split at ended
        · obtain ⟨mark, whole, ⟨-, rfl⟩ | ⟨-, d, -, rfl⟩⟩ := endAt?_eq_some ended
          · exact ⟨['}'], whole⟩
          · exact ⟨[d, '-', '}'], whole⟩
        · cases ended
      · split at read
        · cases read
        · obtain ⟨inner, readInner, rfl⟩ := Option.map_eq_some_iff.mp read
          obtain ⟨front, whole⟩ := induction readInner
          exact ⟨c :: front, congrArg (c :: ·) whole⟩

/-! ## Comments -/

/-- The body of a comment whose end stands where a text begins. -/
def commentEnd? (c : Char) (rest : List Char) : Option Body :=
  match c, rest with
  | '*', '/' :: inner => (endAt? inner).map fun found => ⟨['*', '/'], found.1, found.2⟩
  | _, _ => none

theorem readComment?_cons (c : Char) (rest : List Char) :
    readComment? (c :: rest) = match commentEnd? c rest with
      | some body => some body
      | none => (readComment? rest).map (.cons c) := rfl

theorem commentEnd?_append {c : Char} {rest : List Char} (ends : EndsInLetter (c :: rest))
    (more : List Char) : commentEnd? c (rest ++ more) = (commentEnd? c rest).map (·.extend more) := by
  by_cases mark : ∃ inner, c = '*' ∧ rest = '/' :: inner
  · obtain ⟨inner, rfl, rfl⟩ := mark
    have stable := endAt?_append (ends.behind_pair rfl) more
    rw [List.cons_append, commentEnd?, commentEnd?, stable, Option.map_map, Option.map_map]
    rfl
  · have here : commentEnd? c rest = none := by
      unfold commentEnd?
      split
      · exact absurd ⟨_, rfl, rfl⟩ mark
      · rfl
    rw [here, Option.map_none]
    unfold commentEnd?
    split
    · rename_i c' inner whole
      obtain ⟨behind, same, -⟩ := ends.split (show '*' :: rest ++ more = ['*', '/'] ++ inner by
        rw [List.cons_append, whole]; rfl) (isAlpha_of_mem_pair rfl rfl)
      exact absurd ⟨behind, rfl, (List.cons.inj same).2⟩ mark
    · rfl

theorem readComment?_append {s : List Char} {body : Body} (ends : EndsInLetter s)
    (read : readComment? s = some body) (more : List Char) :
    readComment? (s ++ more) = some (body.extend more) := by
  induction s generalizing body with
  | nil => cases read
  | cons c rest induction =>
      rw [readComment?_cons] at read
      rw [List.cons_append, readComment?_cons, commentEnd?_append ends]
      cases here : commentEnd? c rest with
      | some found =>
          rw [here] at read
          cases read
          rfl
      | none =>
          rw [here] at read
          obtain ⟨inner, readInner, rfl⟩ := Option.map_eq_some_iff.mp read
          have behind : rest ≠ [] := by
            rintro rfl
            cases readInner
          simp only [Option.map_none, induction (ends.tail behind) readInner]
          rfl

theorem readComment?_eq_some {s : List Char} {body : Body} (read : readComment? s = some body) :
    ∃ front, s = front ++ '}' :: body.rest := by
  induction s generalizing body with
  | nil => cases read
  | cons c rest induction =>
      rw [readComment?_cons] at read
      split at read
      · rename_i here
        cases read
        unfold commentEnd? at here
        split at here
        · rename_i inner
          obtain ⟨found, ended, rfl⟩ := Option.map_eq_some_iff.mp here
          obtain ⟨mark, whole, ⟨-, rfl⟩ | ⟨-, d, -, rfl⟩⟩ := endAt?_eq_some ended
          · exact ⟨['*', '/', '}'], congrArg ('*' :: '/' :: ·) whole⟩
          · exact ⟨['*', '/', d, '-', '}'], congrArg ('*' :: '/' :: ·) whole⟩
        · cases here
      · obtain ⟨inner, readInner, rfl⟩ := Option.map_eq_some_iff.mp read
        obtain ⟨front, whole⟩ := induction readInner
        exact ⟨c :: front, congrArg (c :: ·) whole⟩

/-! ## Actions -/

theorem readUntrimmed?_comment (inner : List Char) :
    readUntrimmed? ('/' :: '*' :: inner) = match readComment? inner with
      | some body => some ((body.cons '*').cons '/')
      | none => readBody? .plain ('/' :: '*' :: inner) := by
  rw [readUntrimmed?, readCommentBody?]
  cases readComment? inner <;> rfl

theorem readUntrimmed?_body {s : List Char} (other : ∀ inner, s ≠ '/' :: '*' :: inner) :
    readUntrimmed? s = readBody? .plain s := by
  rw [readUntrimmed?]
  have noComment : readCommentBody? s = none := by
    unfold readCommentBody?
    split
    · exact absurd rfl (other _)
    · rfl
  rw [noComment]

theorem isOpen_comment (inner : List Char) :
    isOpen ('/' :: '*' :: inner) = (readComment? inner).isNone := rfl

theorem isOpen_body {s : List Char} (other : ∀ inner, s ≠ '/' :: '*' :: inner) :
    isOpen s = runsOut .plain s := by
  unfold isOpen
  split
  · exact absurd rfl (other _)
  · rfl

theorem readUntrimmed?_append {s : List Char} (ends : EndsInLetter s) (closed : isOpen s = false)
    (more : List Char) : readUntrimmed? (s ++ more) = (readUntrimmed? s).map (·.extend more) := by
  by_cases comment : ∃ inner, s = '/' :: '*' :: inner
  · obtain ⟨inner, rfl⟩ := comment
    have endsInner : EndsInLetter inner := ends.behind_pair rfl
    rw [isOpen_comment] at closed
    cases read : readComment? inner with
    | none => simp [read] at closed
    | some body =>
        rw [List.cons_append, List.cons_append, readUntrimmed?_comment, readUntrimmed?_comment, read,
          readComment?_append endsInner read]
        rfl
  · have other : ∀ inner, s ≠ '/' :: '*' :: inner := fun inner same => comment ⟨inner, same⟩
    have otherLater : ∀ inner, s ++ more ≠ '/' :: '*' :: inner := by
      intro inner same
      have front : s ++ more = ['/', '*'] ++ inner := same
      obtain ⟨rest, whole, -⟩ := ends.split front (isAlpha_of_mem_pair rfl rfl)
      exact other rest whole
    rw [isOpen_body other] at closed
    rw [readUntrimmed?_body other, readUntrimmed?_body otherLater, readBody?_append ends closed]

theorem readUntrimmed?_eq_some {s : List Char} {body : Body} (read : readUntrimmed? s = some body) :
    ∃ front, s = front ++ '}' :: body.rest := by
  by_cases comment : ∃ inner, s = '/' :: '*' :: inner
  · obtain ⟨inner, rfl⟩ := comment
    rw [readUntrimmed?_comment] at read
    split at read
    · rename_i found
      cases read
      obtain ⟨front, whole⟩ := readComment?_eq_some found
      exact ⟨'/' :: '*' :: front, congrArg ('/' :: '*' :: ·) whole⟩
    · exact readBody?_eq_some read
  · rw [readUntrimmed?_body fun inner same => comment ⟨inner, same⟩] at read
    exact readBody?_eq_some read

/-- Whether a trim mark stands at the head of a text behind the opening braces of an action. -/
def hasMark : List Char → Bool
  | '-' :: c :: _ => isSpace c
  | _ => false

theorem untrimmed_eq_self {s : List Char} (unmarked : ¬∃ c rest, s = '-' :: c :: rest) : untrimmed s = s := by
  unfold untrimmed
  split
  · exact absurd ⟨_, _, rfl⟩ unmarked
  · rfl

theorem hasMark_eq_false {s : List Char} (unmarked : ¬∃ c rest, s = '-' :: c :: rest) : hasMark s = false := by
  unfold hasMark
  split
  · exact absurd ⟨_, _, rfl⟩ unmarked
  · rfl

theorem readAction?_eq (s : List Char) :
    readAction? s = (readUntrimmed? (untrimmed s)).map fun body =>
      (⟨Text.trim body.text, hasMark s, body.trims⟩, body.rest) := by
  by_cases marked : ∃ c rest, s = '-' :: c :: rest
  · obtain ⟨c, rest, rfl⟩ := marked
    simp only [readAction?, untrimmed, hasMark]
    split
    · rename_i space
      rw [space]
    · rename_i noSpace
      rw [Bool.eq_false_iff.mpr noSpace]
  · rw [untrimmed_eq_self marked, hasMark_eq_false marked, readAction?]
    exact fun c rest same => marked ⟨c, rest, same⟩

theorem untrimmed_append {s : List Char} (ends : EndsInLetter s) (more : List Char) :
    untrimmed (s ++ more) = untrimmed s ++ more ∧ hasMark (s ++ more) = hasMark s ∧
      EndsInLetter (untrimmed s) := by
  by_cases marked : ∃ c rest, s = '-' :: c :: rest
  · obtain ⟨c, rest, rfl⟩ := marked
    simp only [List.cons_append, untrimmed, hasMark, true_and]
    split
    · rename_i space
      exact ⟨rfl, ends.behind_pair (isAlpha_of_isSpace space)⟩
    · exact ⟨rfl, ends⟩
  · match s with
    | [] => exact absurd ends not_endsInLetter_nil
    | [c] =>
        have other : c ≠ '-' := by
          rintro rfl
          exact absurd (endsInLetter_singleton ends) (by decide)
        simp [untrimmed, hasMark, other, ends]
    | c :: d :: rest =>
        have other : c ≠ '-' := fun same => marked ⟨d, rest, by rw [same]⟩
        simp [untrimmed, hasMark, other, ends]

theorem readAction?_append {s : List Char} (ends : EndsInLetter s) (closed : isOpen (untrimmed s) = false)
    (more : List Char) :
    readAction? (s ++ more) = (readAction? s).map fun found => (found.1, found.2 ++ more) := by
  obtain ⟨inner, mark, endsInner⟩ := untrimmed_append ends more
  rw [readAction?_eq, readAction?_eq, inner, mark, readUntrimmed?_append endsInner closed, Option.map_map,
    Option.map_map]
  rfl

theorem readAction?_eq_some {s rest : List Char} {a : Action} (read : readAction? s = some (a, rest)) :
    ∃ front, s = front ++ '}' :: rest := by
  rw [readAction?_eq] at read
  obtain ⟨body, readInner, same⟩ := Option.map_eq_some_iff.mp read
  cases same
  obtain ⟨front, whole⟩ := readUntrimmed?_eq_some readInner
  by_cases marked : ∃ c rest, s = '-' :: c :: rest
  · obtain ⟨c, rest, rfl⟩ := marked
    simp only [untrimmed] at whole
    split at whole
    · exact ⟨'-' :: c :: front, congrArg ('-' :: c :: ·) whole⟩
    · exact ⟨front, whole⟩
  · rw [untrimmed_eq_self marked] at whole
    exact ⟨front, whole⟩

/-! ## The first action -/

theorem findAction?_braces (inner : List Char) :
    findAction? ('\x7b' :: '\x7b' :: inner) = match readAction? inner with
      | some (a, after) => some ([], a, after)
      | none => (findAction? ('\x7b' :: inner)).map fun (before, found) => ('\x7b' :: before, found) := by
  exact findAction?.eq_def _

theorem findAction?_other {c : Char} {rest : List Char}
    (other : ∀ inner, c :: rest ≠ '\x7b' :: '\x7b' :: inner) :
    findAction? (c :: rest) = (findAction? rest).map fun (before, found) => (c :: before, found) := by
  rw [findAction?]
  rintro inner rfl rfl
  exact other inner rfl

theorem opensFirst_braces (inner : List Char) :
    opensFirst ('\x7b' :: '\x7b' :: inner) =
      (isOpen (untrimmed inner) || (readAction? inner).isNone && opensFirst ('\x7b' :: inner)) := by
  rw [opensFirst]

theorem opensFirst_other {c : Char} {rest : List Char}
    (other : ∀ inner, c :: rest ≠ '\x7b' :: '\x7b' :: inner) :
    opensFirst (c :: rest) = opensFirst rest := by
  rw [opensFirst]
  rintro inner rfl rfl
  exact other inner rfl

theorem braces_append {c : Char} {rest : List Char} (ends : EndsInLetter (c :: rest))
    (other : ∀ inner, c :: rest ≠ '\x7b' :: '\x7b' :: inner) (more : List Char) :
    ∀ inner, c :: (rest ++ more) ≠ '\x7b' :: '\x7b' :: inner := by
  intro inner same
  have front : c :: rest ++ more = ['\x7b', '\x7b'] ++ inner := same
  obtain ⟨inner, whole, -⟩ := ends.split front (isAlpha_of_mem_pair rfl rfl)
  exact other inner whole

/-- Where no action is left open at its first action, a text is cut there in the same way whatever
follows. -/
theorem findAction?_append {s : List Char} (ends : EndsInLetter s) (closed : opensFirst s = false)
    (more : List Char) :
    findAction? (s ++ more) = match findAction? s with
      | some (before, a, after) => some (before, a, after ++ more)
      | none => (findAction? more).map fun (before, found) => (s ++ before, found) := by
  induction s with
  | nil => exact absurd ends not_endsInLetter_nil
  | cons c rest induction =>
      by_cases braces : ∃ inner, c :: rest = '\x7b' :: '\x7b' :: inner
      · obtain ⟨inner, same⟩ := braces
        cases same
        rw [opensFirst_braces, Bool.or_eq_false_iff] at closed
        have endsRest := ends.tail (List.cons_ne_nil _ _)
        have endsInner : EndsInLetter inner := ends.behind_pair rfl
        have stable := readAction?_append endsInner closed.1 more
        rw [List.cons_append, List.cons_append, findAction?_braces, findAction?_braces, stable]
        cases read : readAction? inner with
        | some found => rfl
        | none =>
            have closedRest : opensFirst ('\x7b' :: inner) = false := by simpa [read] using closed.2
            have behind := induction endsRest closedRest
            rw [List.cons_append] at behind
            simp only [Option.map_none, behind]
            cases findAction? ('\x7b' :: inner) with
            | some found => rfl
            | none => cases findAction? more <;> rfl
      · have other : ∀ inner, c :: rest ≠ '\x7b' :: '\x7b' :: inner :=
          fun inner same => braces ⟨inner, same⟩
        rw [List.cons_append, findAction?_other (braces_append ends other more), findAction?_other other]
        cases rest with
        | nil =>
            have none : findAction? [] = none := by rw [findAction?]
            rw [List.nil_append, none]
            cases findAction? more <;> rfl
        | cons d rest =>
            rw [opensFirst_other other] at closed
            rw [induction (ends.tail (List.cons_ne_nil d rest)) closed]
            cases findAction? (d :: rest) with
            | some found => rfl
            | none => cases findAction? more <;> rfl

theorem findAction?_eq_some {s before after : List Char} {a : Action}
    (found : findAction? s = some (before, a, after)) : ∃ front, s = front ++ '}' :: after := by
  induction s generalizing before with
  | nil => cases found
  | cons c rest induction =>
      by_cases braces : ∃ inner, c :: rest = '\x7b' :: '\x7b' :: inner
      · obtain ⟨inner, same⟩ := braces
        cases same
        rw [findAction?_braces] at found
        split at found
        · rename_i read
          cases found
          obtain ⟨front, whole⟩ := readAction?_eq_some read
          exact ⟨'\x7b' :: '\x7b' :: front, congrArg ('\x7b' :: '\x7b' :: ·) whole⟩
        · obtain ⟨⟨before', found'⟩, foundRest, same⟩ := Option.map_eq_some_iff.mp found
          cases same
          obtain ⟨front, whole⟩ := induction foundRest
          exact ⟨'\x7b' :: front, congrArg ('\x7b' :: ·) whole⟩
      · rw [findAction?_other fun inner same => braces ⟨inner, same⟩] at found
        obtain ⟨⟨before', found'⟩, foundRest, same⟩ := Option.map_eq_some_iff.mp found
        cases same
        obtain ⟨front, whole⟩ := induction foundRest
        exact ⟨c :: front, congrArg (c :: ·) whole⟩

/-! ## Cutting -/

/-- The text before an action or at the end of a template, without the space that its neighbours drop. -/
def trimmed (before after : Bool) (s : List Char) : List Char :=
  let s := if before then Text.trimStartWith isSpace s else s
  if after then Text.trimEndWith isSpace s else s

theorem cutAfter_eq (trims : Bool) (s : List Char) :
    cutAfter trims s = match findAction? s with
      | none => [.text (trimmed trims false s)]
      | some (before, a, after) =>
        .text (trimmed trims a.trimsBefore before) :: .action a :: cutAfter a.trimsAfter after := by
  rw [cutAfter]
  split
  · rename_i found
    rw [found]
    rfl
  · rename_i found
    rw [found]
    rfl

theorem leavesOpen_eq (s : List Char) :
    leavesOpen s = (opensFirst s || match findAction? s with
      | none => false
      | some (_, _, after) => leavesOpen after) := by
  rw [leavesOpen]
  split
  · rename_i found
    rw [found]
  · rename_i found
    rw [found]

theorem EndsInLetter.exists_last {s : List Char} (ends : EndsInLetter s) :
    ∃ front c, s = front ++ [c] ∧ c.isAlpha = true := by
  rw [EndsInLetter] at ends
  cases last : s.getLast? with
  | none => simp [last] at ends
  | some c =>
      obtain ⟨front, whole⟩ := List.getLast?_eq_some_iff.mp last
      exact ⟨front, c, whole, by simpa [last] using ends⟩

theorem endsInLetter_trimStartWith {s : List Char} (ends : EndsInLetter s) :
    EndsInLetter (Text.trimStartWith isSpace s) := by
  obtain ⟨front, c, rfl, letter⟩ := ends.exists_last
  have stays : [c].dropWhile isSpace = [c] :=
    List.dropWhile_cons_of_neg (by simp [isSpace_eq_false letter])
  rw [Text.trimStartWith, List.dropWhile_append, stays]
  split
  · simp [EndsInLetter, letter]
  · simp [EndsInLetter, letter]

theorem trimStartWith_append {s : List Char} (ends : EndsInLetter s) (more : List Char) :
    Text.trimStartWith isSpace (s ++ more) = Text.trimStartWith isSpace s ++ more := by
  have kept : s.dropWhile isSpace ≠ [] := fun none =>
    not_endsInLetter_nil (none ▸ endsInLetter_trimStartWith ends)
  rw [Text.trimStartWith, Text.trimStartWith, List.dropWhile_append, if_neg (by simpa using kept)]

theorem trimEndWith_append {s : List Char} (ends : EndsInLetter s) (more : List Char) :
    Text.trimEndWith isSpace (s ++ more) = s ++ Text.trimEndWith isSpace more := by
  obtain ⟨front, c, rfl, letter⟩ := ends.exists_last
  rw [List.append_assoc, List.append_assoc]
  exact Text.trimEndWith_append_cons isSpace (isSpace_eq_false letter) front more

/-- The pieces of a text whose first piece, which is a text, has another text before it. -/
def glue (s : List Char) : List Piece → List Piece
  | .text t :: rest => .text (s ++ t) :: rest
  | pieces => pieces

theorem trimmed_append {s : List Char} (ends : EndsInLetter s) (before after : Bool) (more : List Char) :
    trimmed before after (s ++ more) = trimmed before false s ++ trimmed false after more := by
  cases before with
  | false =>
      cases after with
      | false => rfl
      | true => exact trimEndWith_append ends more
  | true =>
      have start := trimStartWith_append ends more
      cases after with
      | false => exact start
      | true =>
          simp only [trimmed, if_true, start]
          exact trimEndWith_append (endsInLetter_trimStartWith ends) more

theorem endsInLetter_trimmed {s : List Char} (ends : EndsInLetter s) (before : Bool) :
    EndsInLetter (trimmed before false s) := by
  cases before with
  | false => exact ends
  | true => exact endsInLetter_trimStartWith ends

theorem EndsInLetter.after {s before after : List Char} {a : Action} (ends : EndsInLetter s)
    (found : findAction? s = some (before, a, after)) : EndsInLetter after := by
  obtain ⟨front, rfl⟩ := findAction?_eq_some found
  exact ends.behind rfl

/-- Where no action is left open, what is written behind a text is cut as if it stood alone, and its first
text goes on from the last text before. -/
theorem cutAfter_append {s : List Char} (ends : EndsInLetter s) (closed : leavesOpen s = false)
    (trims : Bool) :
    ∃ pieces t, EndsInLetter t ∧ cutAfter trims s = pieces ++ [.text t] ∧
      ∀ more, cutAfter trims (s ++ more) = pieces ++ glue t (cut more) := by
  induction s using leavesOpen.induct generalizing trims with
  | case1 s induction =>
      rw [leavesOpen_eq, Bool.or_eq_false_iff] at closed
      cases found : findAction? s with
      | none =>
          refine ⟨[], trimmed trims false s, endsInLetter_trimmed ends trims, ?_, fun more => ?_⟩
          · rw [cutAfter_eq, found]
            rfl
          · rw [cutAfter_eq, findAction?_append ends closed.1, found, cut, cutAfter_eq]
            cases findAction? more with
            | none => simp only [Option.map_none, trimmed_append ends, glue, List.nil_append]
            | some result => simp only [Option.map_some, trimmed_append ends, glue, List.nil_append]
      | some result =>
          obtain ⟨before, a, after⟩ := result
          rw [found] at closed
          obtain ⟨pieces, t, endsT, alone, together⟩ :=
            induction before a after found (ends.after found) closed.2 a.trimsAfter
          refine ⟨.text (trimmed trims a.trimsBefore before) :: .action a :: pieces, t, endsT, ?_,
            fun more => ?_⟩
          · rw [cutAfter_eq, found]
            simp only [alone, List.cons_append]
          · rw [cutAfter_eq, findAction?_append ends closed.1, found]
            simp only [together, List.cons_append]

end Stencil.Template
