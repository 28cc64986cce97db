import Stencil.Template.Compile
import Stencil.Proofs.Template.Seam

/-!
# What open actions absorb

An action that is left open at the end of a text is ended by what is written behind the text: by a comment,
if it is one, and else by the marks that end the literal that it stands in.  All that stands between belongs
to the action then.
-/

namespace Stencil.Template

/-! ## Pairs of characters -/

theorem hasPair_eq_true_iff {a b : Char} {s : List Char} :
    hasPair a b s = true ↔ ∃ front rest, s = front ++ a :: b :: rest := by
  induction s with
  | nil => simp [hasPair]
  | cons c s induction =>
      cases s with
      | nil =>
          simp only [hasPair, Bool.false_eq_true, false_iff]
          rintro ⟨front, rest, same⟩
          have lengths := congrArg List.length same
          simp at lengths
          omega
      | cons d s =>
          rw [hasPair, Bool.or_eq_true, induction]
          constructor
          · rintro (here | ⟨front, rest, same⟩)
            · obtain ⟨rfl, rfl⟩ : c = a ∧ d = b := by simpa using here
              exact ⟨[], s, rfl⟩
            · exact ⟨c :: front, rest, congrArg (c :: ·) same⟩
          · rintro ⟨front, rest, same⟩
            cases front with
            | nil =>
                cases same
                exact .inl (by simp)
            | cons e front => exact .inr ⟨front, rest, (List.cons.inj same).2⟩

private theorem dropWhile_append_pair (front rest : List Char) :
    ∃ front',
      (front ++ '\x7b' :: '\x7b' :: rest).dropWhile isSpace = front' ++ '\x7b' :: '\x7b' :: rest := by
  rw [List.dropWhile_append]
  split
  · exact ⟨[], rfl⟩
  · exact ⟨_, rfl⟩

/-- Braces are not dropped. -/
theorem hasPair_trimmed (before after : Bool) {s : List Char} (pair : hasPair '\x7b' '\x7b' s = true) :
    hasPair '\x7b' '\x7b' (trimmed before after s) = true := by
  rw [hasPair_eq_true_iff] at pair ⊢
  have start (s : List Char) (pair : ∃ front rest, s = front ++ '\x7b' :: '\x7b' :: rest) :
      ∃ front rest, Text.trimStartWith isSpace s = front ++ '\x7b' :: '\x7b' :: rest := by
    obtain ⟨front, rest, rfl⟩ := pair
    obtain ⟨front', dropped⟩ := dropWhile_append_pair front rest
    exact ⟨front', rest, dropped⟩
  have behind (s : List Char) (pair : ∃ front rest, s = front ++ '\x7b' :: '\x7b' :: rest) :
      ∃ front rest, Text.trimEndWith isSpace s = front ++ '\x7b' :: '\x7b' :: rest := by
    obtain ⟨front, rest, rfl⟩ := pair
    obtain ⟨rest', dropped⟩ := dropWhile_append_pair rest.reverse front.reverse
    refine ⟨front, rest'.reverse, ?_⟩
    have reversed : (front ++ '\x7b' :: '\x7b' :: rest).reverse =
        rest.reverse ++ '\x7b' :: '\x7b' :: front.reverse := by simp
    rw [Text.trimEndWith, reversed, dropped]
    simp
  rw [trimmed]
  cases before with
  | false =>
      cases after with
      | false => exact pair
      | true => exact behind s pair
  | true =>
      cases after with
      | false => exact start s pair
      | true => exact behind _ (start s pair)

/-! ## Ending open actions -/

/-- A text that ends an action that is left open in a mode. -/
def closing : Mode → List Char
  | .plain => ['}', '}']
  | .quoted => ['"', '}', '}']
  | .escaped => ['"', '"', '}', '}']
  | .raw => [rawMark, '}', '}']

/-- A comment without text, in its action. -/
def emptyComment : List Char :=
  ['\x7b', '\x7b', '/', '*', '*', '/', '}', '}']

theorem endsInLetter_tail {c : Char} {s : List Char} (ends : EndsInLetter (c :: s)) :
    s = [] ∨ EndsInLetter s := by
  cases s with
  | nil => exact .inl rfl
  | cons d s => exact .inr (ends.tail (List.cons_ne_nil d s))

theorem runsOut_cons {mode : Mode} {c : Char} {rest : List Char} (leftOpen : runsOut mode (c :: rest) = true) :
    (mode = .plain → endAt? (c :: rest) = none) ∧
      ∃ next, mode.next? c = some next ∧ runsOut next rest = true := by
  rw [runsOut] at leftOpen
  split at leftOpen
  · cases leftOpen
  · rename_i goesOn
    refine ⟨fun plain => by simpa [plain] using goesOn, ?_⟩
    cases following : mode.next? c with
    | none =>
        rw [following] at leftOpen
        cases leftOpen
    | some next =>
        rw [following] at leftOpen
        exact ⟨next, rfl, leftOpen⟩

theorem readBody?_cons {mode next : Mode} {c : Char} {rest : List Char}
    (goesOn : mode = .plain → endAt? (c :: rest) = none) (following : mode.next? c = some next) :
    readBody? mode (c :: rest) = (readBody? next rest).map (.cons c) := by
  have unended : (if mode = .plain then endAt? (c :: rest) else none) = none := by
    split
    · rename_i plain
      exact goesOn plain
    · rfl
  rw [readBody?, unended]
  simp only [following]

/-- A body that runs out is ended by the marks that end the literal that it stands in. -/
theorem exists_readBody?_closing {mode : Mode} {s : List Char} (leftOpen : runsOut mode s = true)
    (ends : s = [] ∨ EndsInLetter s) :
    ∃ last body, readBody? mode (s ++ closing last) = some body := by
  induction s generalizing mode with
  | nil =>
      cases mode with
      | plain => exact ⟨.plain, _, rfl⟩
      | quoted => exact ⟨.quoted, _, rfl⟩
      | escaped => exact ⟨.escaped, _, rfl⟩
      | raw => exact ⟨.raw, _, rfl⟩
  | cons c rest induction =>
      have ends := ends.resolve_left (List.cons_ne_nil c rest)
      obtain ⟨goesOn, next, following, leftOpen⟩ := runsOut_cons leftOpen
      obtain ⟨last, body, read⟩ := induction leftOpen (endsInLetter_tail ends)
      have goesOnLater (plain : mode = .plain) : endAt? (c :: (rest ++ closing last)) = none := by
        have stable := endAt?_append ends (closing last)
        rwa [goesOn plain, Option.map_none] at stable
      refine ⟨last, body.cons c, ?_⟩
      rw [List.cons_append, readBody?_cons goesOnLater following, read]
      rfl

theorem readBody?_eq_none {mode : Mode} {s : List Char} (leftOpen : runsOut mode s = true) :
    readBody? mode s = none := by
  induction s generalizing mode with
  | nil => rfl
  | cons c rest induction =>
      obtain ⟨goesOn, next, following, leftOpen⟩ := runsOut_cons leftOpen
      rw [readBody?_cons goesOn following, induction leftOpen, Option.map_none]

/-- A comment without its end is ended by any comment behind it. -/
theorem readComment?_emptyComment {s : List Char} (unread : readComment? s = none)
    (ends : s = [] ∨ EndsInLetter s) :
    readComment? (s ++ emptyComment) = some ⟨s ++ emptyComment.take 6, false, []⟩ := by
  induction s with
  | nil => rfl
  | cons c rest induction =>
      have ends := ends.resolve_left (List.cons_ne_nil c rest)
      rw [readComment?_cons] at unread
      cases here : commentEnd? c rest with
      | some body =>
          rw [here] at unread
          cases unread
      | none =>
          rw [here] at unread
          have behind := induction (Option.map_eq_none_iff.mp unread) (endsInLetter_tail ends)
          rw [List.cons_append, readComment?_cons, commentEnd?_append ends, here, behind]
          rfl

/-! ## Open actions -/

/-- Behind a part of a text an action is left open, and no action begins before. -/
structure OpensAt (front inner s : List Char) : Prop where
  /-- The braces of the action. -/
  whole : s = front ++ '\x7b' :: '\x7b' :: inner
  /-- The action is left open. -/
  isOpen : isOpen (untrimmed inner) = true
  /-- Whatever follows the text, its first action is looked for from the braces on. -/
  later : ∀ more, findAction? (s ++ more) = (findAction? ('\x7b' :: '\x7b' :: (inner ++ more))).map
    fun (before, found) => (front ++ before, found)

theorem exists_opensAt {s : List Char} (ends : EndsInLetter s) (opens : opensFirst s = true) :
    ∃ front inner, OpensAt front inner s := by
  induction s with
  | nil => exact absurd ends not_endsInLetter_nil
  | cons c rest induction =>
      by_cases braces : ∃ inner, c :: rest = '\x7b' :: '\x7b' :: inner
      · obtain ⟨inner, same⟩ := braces
        cases same
        cases here : isOpen (untrimmed inner) with
        | true =>
            refine ⟨[], inner, rfl, here, fun more => ?_⟩
            rw [List.cons_append, List.cons_append]
            cases findAction? ('\x7b' :: '\x7b' :: (inner ++ more)) <;> rfl
        | false =>
            rw [opensFirst_braces, here, Bool.false_or, Bool.and_eq_true] at opens
            have endsInner : EndsInLetter inner := ends.behind_pair rfl
            have endsRest := ends.tail (List.cons_ne_nil _ _)
            obtain ⟨front, inner', whole, leftOpen, later⟩ := induction endsRest opens.2
            refine ⟨'\x7b' :: front, inner', congrArg ('\x7b' :: ·) whole, leftOpen, fun more => ?_⟩
            have unread : readAction? (inner ++ more) = none := by
              rw [readAction?_append endsInner here, Option.isNone_iff_eq_none.mp opens.1]
              rfl
            have behind := later more
            rw [List.cons_append] at behind
            rw [List.cons_append, List.cons_append, findAction?_braces, unread]
            simp only [behind, Option.map_map]
            rfl
      · have other : ∀ inner, c :: rest ≠ '\x7b' :: '\x7b' :: inner :=
          fun inner same => braces ⟨inner, same⟩
        rw [opensFirst_other other] at opens
        have some : rest ≠ [] := by
          rintro rfl
          cases opens
        obtain ⟨front, inner, whole, leftOpen, later⟩ := induction (ends.tail some) opens
        refine ⟨c :: front, inner, congrArg (c :: ·) whole, leftOpen, fun more => ?_⟩
        rw [List.cons_append, findAction?_other (braces_append ends other more), later more, Option.map_map]
        rfl

theorem cutAfter_last {s : List Char} (ends : EndsInLetter s) (trims : Bool) :
    ∃ pieces u, EndsInLetter u ∧ cutAfter trims s = pieces ++ [.text u] := by
  induction s using leavesOpen.induct generalizing trims with
  | case1 s induction =>
      rw [cutAfter_eq]
      cases found : findAction? s with
      | none => exact ⟨[], trimmed trims false s, endsInLetter_trimmed ends trims, rfl⟩
      | some result =>
          obtain ⟨before, a, after⟩ := result
          obtain ⟨pieces, u, endsU, whole⟩ :=
            induction before a after found (ends.after found) a.trimsAfter
          refine ⟨.text (trimmed trims a.trimsBefore before) :: .action a :: pieces, u, endsU, ?_⟩
          simp only [whole, List.cons_append]

/-! ## Loose comments -/

/-- Whether a body is that of a comment with its end. -/
def isWholeComment (body : List Char) : Bool :=
  CompileState.isComment body && "*/".toList.isSuffixOf body

theorem isComment_trim (s : List Char) : CompileState.isComment (Text.trim ('/' :: '*' :: s)) = true := by
  have trimmed := Text.trimEndWith_append_cons Text.isBlank (by decide : Text.isBlank '*' = false) ['/'] s
  rw [Text.trim_cons (by decide), Text.trimEnd, ← List.singleton_append, trimmed]
  rfl

theorem isWholeComment_trim (s : List Char) :
    isWholeComment (Text.trim ('/' :: '*' :: (s ++ ['*', '/']))) = true := by
  have trimmed := Text.trimEndWith_append_cons Text.isBlank (by decide : Text.isBlank '/' = false)
    ('/' :: '*' :: (s ++ ['*'])) []
  have same : '/' :: '*' :: (s ++ ['*', '/']) = '/' :: '*' :: (s ++ ['*']) ++ ['/'] := by simp
  rw [isWholeComment, isComment_trim, Text.trim_cons (by decide), Text.trimEnd, same, trimmed]
  simp only [Bool.true_and, List.isSuffixOf_iff_suffix]
  exact ⟨'/' :: '*' :: s, by simp [Text.trimEndWith]⟩

/-- A body goes on with a character that ends no action. -/
theorem readBody?_plain_cons {c : Char} {s : List Char} {body : Body} (unended : endAt? (c :: s) = none)
    (read : readBody? .plain (c :: s) = some body) :
    ∃ mode inner, Mode.plain.next? c = some mode ∧ readBody? mode s = some inner ∧ body = inner.cons c := by
  rw [readBody?, if_pos rfl, unended] at read
  obtain ⟨mode, next⟩ : ∃ mode, Mode.plain.next? c = some mode := ⟨_, rfl⟩
  rw [next] at read
  obtain ⟨inner, readInner, same⟩ := Option.map_eq_some_iff.mp read
  exact ⟨mode, inner, next, readInner, same.symm⟩

theorem endAt?_eq_none {c : Char} (other : c ≠ '}') (solid : isSpace c = false) (s : List Char) :
    endAt? (c :: s) = none := by
  cases found : endAt? (c :: s) with
  | none => rfl
  | some result =>
      obtain ⟨mark, whole, ⟨-, rfl⟩ | ⟨-, d, space, rfl⟩⟩ := endAt?_eq_some found
      · cases whole
        exact absurd rfl other
      · cases whole
        rw [solid] at space
        cases space

theorem readBody?_comment {s : List Char} {body : Body}
    (read : readBody? .plain ('/' :: '*' :: s) = some body) :
    ∃ text, body.text = '/' :: '*' :: text := by
  obtain ⟨mode, inner, next, readInner, rfl⟩ :=
    readBody?_plain_cons (endAt?_eq_none (by decide) (by decide) _) read
  cases next
  obtain ⟨mode, innermost, -, -, rfl⟩ :=
    readBody?_plain_cons (endAt?_eq_none (by decide) (by decide) _) readInner
  exact ⟨innermost.text, rfl⟩

/-- An action that is read although it is left open is a comment that does not end where an action may: it
is read as an action of another kind, and a comment behind it belongs to it. -/
theorem readAction?_looseComment {s after : List Char} {a : Action} (ends : EndsInLetter s)
    (leftOpen : isOpen (untrimmed s) = true) (read : readAction? s = some (a, after)) :
    CompileState.isComment a.body = true ∧ ∃ body, isWholeComment body = true ∧
      readAction? (s ++ emptyComment) = some (⟨body, a.trimsBefore, false⟩, []) := by
  obtain ⟨inner, mark, endsInner⟩ := untrimmed_append ends emptyComment
  rw [readAction?_eq] at read
  obtain ⟨body, readInner, same⟩ := Option.map_eq_some_iff.mp read
  cases same
  by_cases comment : ∃ rest, untrimmed s = '/' :: '*' :: rest
  · obtain ⟨rest, whole⟩ := comment
    rw [whole] at leftOpen readInner inner endsInner
    have unread : readComment? rest = none := Option.isNone_iff_eq_none.mp leftOpen
    have endsRest : EndsInLetter rest := endsInner.behind_pair rfl
    rw [readUntrimmed?_comment, unread] at readInner
    obtain ⟨text, head⟩ := readBody?_comment readInner
    refine ⟨?_, Text.trim ('/' :: '*' :: (rest ++ emptyComment.take 6)), ?_, ?_⟩
    · simp only [head]
      exact isComment_trim text
    · have same : rest ++ emptyComment.take 6 = (rest ++ emptyComment.take 4) ++ ['*', '/'] := by
        simp [emptyComment]
      rw [same]
      exact isWholeComment_trim _
    · rw [readAction?_eq, inner, mark, List.cons_append, List.cons_append, readUntrimmed?_comment,
        readComment?_emptyComment unread (.inr endsRest)]
      rfl
  · have other : ∀ rest, untrimmed s ≠ '/' :: '*' :: rest := fun rest same => comment ⟨rest, same⟩
    rw [isOpen_body other] at leftOpen
    rw [readUntrimmed?_body other, readBody?_eq_none leftOpen] at readInner
    cases readInner

/-! ## Open braces -/

theorem untrimmed_brace (s : List Char) : untrimmed ('\x7b' :: s) = '\x7b' :: s := rfl

/-- An action that begins with a brace and is left open becomes one with a text that ends it. -/
theorem readAction?_brace {s : List Char} (ends : EndsInLetter ('\x7b' :: s))
    (leftOpen : isOpen ('\x7b' :: s) = true) :
    ∃ last a after, readAction? ('\x7b' :: (s ++ closing last)) = some (a, after) ∧
      a.body.head? = some '\x7b' := by
  have other (s : List Char) : ∀ inner, '\x7b' :: s ≠ '/' :: '*' :: inner := by
    intro inner same
    cases same
  rw [isOpen_body (other s)] at leftOpen
  obtain ⟨last, body, read⟩ := exists_readBody?_closing leftOpen (.inr ends)
  rw [List.cons_append] at read
  obtain ⟨mode, inner, -, -, rfl⟩ :=
    readBody?_plain_cons (endAt?_eq_none (by decide) (by decide) _) read
  refine ⟨last, ⟨Text.trim ('\x7b' :: inner.text), false, inner.trims⟩, inner.rest, ?_,
    Text.head?_trim (by decide) inner.text⟩
  rw [readAction?_eq, untrimmed_brace, readUntrimmed?_body (other _), read]
  rfl

/-! ## Spoiled texts -/

/-- A text that becomes one with an action that begins with a brace. -/
def Breaks (trims : Bool) (s : List Char) : Prop :=
  ∃ last a, .action a ∈ cutAfter trims (s ++ closing last) ∧ a.body.head? = some '\x7b'

/-- A text whose end, from a comment on, a comment behind it takes. -/
def Swallows (trims : Bool) (s : List Char) : Prop :=
  ∃ pieces t a c more u,
    cutAfter trims s = pieces ++ .text t :: .action a :: (more ++ [.text u]) ∧ EndsInLetter u ∧
    CompileState.isComment a.body = true ∧ isWholeComment c.body = true ∧
    cutAfter trims (s ++ emptyComment) = pieces ++ [.text t, .action c, .text []]

section

variable {s front inner after : List Char} {a : Action}

/-- Without a text behind it, the first action is looked for where an action is left open, too. -/
theorem OpensAt.alone (opens : OpensAt front inner s) : findAction? s =
    (findAction? ('\x7b' :: '\x7b' :: inner)).map fun (before, found) => (front ++ before, found) := by
  simpa using opens.later []

theorem swallows_of_read (ends : EndsInLetter s) (opens : OpensAt front inner s)
    (read : readAction? inner = some (a, after)) (trims : Bool) : Swallows trims s := by
  have endsBrace : EndsInLetter (front ++ ['\x7b'] ++ '\x7b' :: inner) := by
    simpa using opens.whole ▸ ends
  have endsInner : EndsInLetter inner := endsBrace.behind rfl
  have alone := opens.alone
  rw [findAction?_braces, read] at alone
  obtain ⟨comment, body, ended, readLater⟩ := readAction?_looseComment endsInner opens.isOpen read
  have taken := opens.later emptyComment
  rw [findAction?_braces, readLater] at taken
  obtain ⟨more, u, endsU, rest⟩ := cutAfter_last (ends.after alone) a.trimsAfter
  refine ⟨[], trimmed trims a.trimsBefore front, a, ⟨body, a.trimsBefore, false⟩, more, u, ?_, endsU,
    comment, ended, ?_⟩
  · rw [cutAfter_eq, alone]
    simp [rest]
  · have empty : cutAfter false [] = [.text []] := by
      rw [cutAfter_eq]
      rfl
    rw [cutAfter_eq, taken]
    simp [empty]

theorem breaks_of_unread (ends : EndsInLetter s) (opens : OpensAt front inner s)
    (unread : readAction? inner = none) (trims : Bool)
    (clean : ∀ t, .text t ∈ cutAfter trims s → hasPair '\x7b' '\x7b' t = false) : Breaks trims s := by
  have alone := opens.alone
  rw [findAction?_braces, unread] at alone
  by_cases brace : ∃ rest, inner = '\x7b' :: rest
  · obtain ⟨rest, rfl⟩ := brace
    have endsBraces : EndsInLetter (front ++ ['\x7b', '\x7b'] ++ '\x7b' :: rest) := by
      simpa using opens.whole ▸ ends
    have endsInner : EndsInLetter ('\x7b' :: rest) := endsBraces.of_append (List.cons_ne_nil _ rest)
    obtain ⟨last, a, after, readLater, head⟩ := readAction?_brace endsInner opens.isOpen
    have ended := opens.later (closing last)
    rw [List.cons_append, findAction?_braces, readLater] at ended
    refine ⟨last, a, ?_, head⟩
    rw [cutAfter_eq, ended]
    simp
  · have other : ∀ rest, '\x7b' :: inner ≠ '\x7b' :: '\x7b' :: rest := by
      intro rest same
      exact brace ⟨rest, (List.cons.inj same).2⟩
    simp only [findAction?_other other] at alone
    cases found : findAction? inner with
    | none =>
        rw [found] at alone
        have pair := hasPair_eq_true_iff.mpr ⟨front, inner, opens.whole⟩
        have text := clean (trimmed trims false s) (by rw [cutAfter_eq, alone]; simp)
        rw [hasPair_trimmed trims false pair] at text
        cases text
    | some result =>
        obtain ⟨before, a, after⟩ := result
        rw [found] at alone
        have pair : hasPair '\x7b' '\x7b' (front ++ '\x7b' :: '\x7b' :: before) = true :=
          hasPair_eq_true_iff.mpr ⟨front, before, rfl⟩
        have text := clean (trimmed trims a.trimsBefore (front ++ '\x7b' :: '\x7b' :: before))
          (by rw [cutAfter_eq, alone]; simp)
        rw [hasPair_trimmed trims a.trimsBefore pair] at text
        cases text

end

/-- A text that leaves an action open, and in which nothing looks like an unread action, is spoiled by what
stands behind it. -/
theorem breaks_or_swallows {s : List Char} (ends : EndsInLetter s) (opens : leavesOpen s = true)
    (trims : Bool) (clean : ∀ t, .text t ∈ cutAfter trims s → hasPair '\x7b' '\x7b' t = false) :
    Breaks trims s ∨ Swallows trims s := by
  induction s using leavesOpen.induct generalizing trims with
  | case1 s induction =>
      cases first : opensFirst s with
      | true =>
          obtain ⟨front, inner, opensAt⟩ := exists_opensAt ends first
          cases read : readAction? inner with
          | none => exact .inl (breaks_of_unread ends opensAt read trims clean)
          | some found => exact .inr (swallows_of_read ends opensAt read trims)
      | false =>
          rw [leavesOpen_eq, first, Bool.false_or] at opens
          cases found : findAction? s with
          | none =>
              rw [found] at opens
              cases opens
          | some result =>
              obtain ⟨before, a, after⟩ := result
              rw [found] at opens
              have here : cutAfter trims s = .text (trimmed trims a.trimsBefore before) :: .action a ::
                  cutAfter a.trimsAfter after := by
                rw [cutAfter_eq, found]
              have behind (more : List Char) : cutAfter trims (s ++ more) =
                  .text (trimmed trims a.trimsBefore before) :: .action a ::
                    cutAfter a.trimsAfter (after ++ more) := by
                rw [cutAfter_eq, findAction?_append ends first, found]
              rw [here] at clean
              have cleanAfter (t : List Char) (member : .text t ∈ cutAfter a.trimsAfter after) :
                  hasPair '\x7b' '\x7b' t = false :=
                clean t (List.mem_cons_of_mem _ (List.mem_cons_of_mem _ member))
              rcases induction before a after found (ends.after found) opens a.trimsAfter cleanAfter with
                breaks | swallows
              · obtain ⟨last, b, member, brace⟩ := breaks
                refine .inl ⟨last, b, ?_, brace⟩
                rw [behind]
                exact List.mem_cons_of_mem _ (List.mem_cons_of_mem _ member)
              · obtain ⟨pieces, t, b, c, more, u, whole, endsU, comment, ended, taken⟩ := swallows
                let front := .text (trimmed trims a.trimsBefore before) :: .action a :: pieces
                refine .inr ⟨front, t, b, c, more, u, ?_, endsU, comment, ended, ?_⟩
                · rw [here, whole]
                  rfl
                · rw [behind, taken]
                  rfl

end Stencil.Template
