import Stencil.Proofs.Template.Verbatim

/-!
# Text around comments

A template of texts with comments between them.  A comment leaves nothing behind, and a text keeps every
character but the space that a comment at its side drops, although the page may have to copy one text, print
the next as a literal, and set them side by side.
-/

namespace Stencil.Template

/-- A comment, and the text behind it. -/
structure Remark where
  /-- What the comment says. -/
  text : List Char
  /-- Whether it drops the space before it. -/
  trimsBefore : Bool
  /-- Whether it drops the space behind it. -/
  trimsAfter : Bool
  /-- The text behind it. -/
  follow : List Char
deriving DecidableEq, Repr

namespace Remark

/-- How a comment ends. -/
def ending (r : Remark) : List Char :=
  if r.trimsAfter then " -\x7d\x7d".toList else "\x7d\x7d".toList

/-- A comment behind its opening braces. -/
def inner (r : Remark) : List Char :=
  (if r.trimsBefore then "- ".toList else []) ++ "/*".toList ++ r.text ++ "*/".toList ++ r.ending

/-- A comment as it is written. -/
def spelling (r : Remark) : List Char :=
  "\x7b\x7b".toList ++ r.inner

end Remark

/-- A template of texts and comments. -/
def spell (first : List Char) : List Remark → List Char
  | [] => first
  | r :: rest => first ++ r.spelling ++ spell r.follow rest

/-- The texts of a template of texts and comments. -/
def fragments (first : List Char) (remarks : List Remark) : List (List Char) :=
  first :: remarks.map Remark.follow

/-- The texts of a template one after the other, without the space that comments drop; `trims` says whether
the space before the first one is dropped. -/
def kept (trims : Bool) (first : List Char) : List Remark → List Char
  | [] => trimmed trims false first
  | r :: rest => trimmed trims r.trimsBefore first ++ kept r.trimsAfter r.follow rest

/-! ## Reading a comment -/

theorem commentEnd?_cons_append {c : Char} {s : List Char} (closed : ¬['*', '/'] <:+: c :: s) (more : List Char) :
    commentEnd? c (s ++ '*' :: more) = none := by
  cases s with
  | nil => simp [commentEnd?]
  | cons d s =>
      unfold commentEnd?
      split
      · rename_i inner same
        cases same
        exact absurd ⟨[], s, rfl⟩ closed
      · rfl

/-- A comment ends at its first mark, when an end follows there. -/
theorem readComment?_append_mark {s more rest : List Char} {trims : Bool} (closed : ¬['*', '/'] <:+: s)
    (ended : endAt? more = some (trims, rest)) :
    readComment? (s ++ '*' :: '/' :: more) = some ⟨s ++ ['*', '/'], trims, rest⟩ := by
  induction s with
  | nil =>
      rw [List.nil_append, readComment?_cons, commentEnd?, ended]
      rfl
  | cons c s induction =>
      have closedRest : ¬['*', '/'] <:+: s := fun known => closed (known.trans (List.infix_cons List.infix_rfl))
      rw [List.cons_append, readComment?_cons, commentEnd?_cons_append closed, induction closedRest]
      rfl

namespace Remark

variable {r : Remark}

theorem endAt?_ending (r : Remark) (more : List Char) :
    endAt? (r.ending ++ more) = some (r.trimsAfter, more) := by
  unfold ending
  split
  · rename_i trims
    rw [trims]
    exact endAt?_mark (by decide) more
  · rename_i keeps
    rw [Bool.eq_false_iff.mpr keeps]
    exact endAt?_braces more

/-- A comment is read as a whole comment with its trim marks. -/
theorem readAction?_inner (closed : ¬['*', '/'] <:+: r.text) (more : List Char) :
    ∃ body, isWholeComment body = true ∧
      readAction? (r.inner ++ more) = some (⟨body, r.trimsBefore, r.trimsAfter⟩, more) := by
  have read := readComment?_append_mark closed (r.endAt?_ending more)
  have behind : readUntrimmed? ('/' :: '*' :: (r.text ++ '*' :: '/' :: (r.ending ++ more))) =
      some ⟨'/' :: '*' :: (r.text ++ ['*', '/']), r.trimsAfter, more⟩ := by
    rw [readUntrimmed?_comment, read]
    rfl
  refine ⟨_, isWholeComment_trim r.text, ?_⟩
  cases marked : r.trimsBefore with
  | false =>
      have written : r.inner ++ more = '/' :: '*' :: (r.text ++ '*' :: '/' :: (r.ending ++ more)) := by
        simp [inner, marked]
      have unmarked : ¬∃ c rest, '/' :: '*' :: (r.text ++ '*' :: '/' :: (r.ending ++ more)) = '-' :: c :: rest := by
        simp
      rw [written, readAction?_eq, untrimmed_eq_self unmarked, hasMark_eq_false unmarked, behind]
      rfl
  | true =>
      have written : r.inner ++ more = '-' :: ' ' :: '/' :: '*' :: (r.text ++ '*' :: '/' :: (r.ending ++ more)) := by
        simp [inner, marked]
      have space : isSpace ' ' = true := by decide
      rw [written, readAction?_eq, untrimmed, hasMark, if_pos space, behind, space]
      rfl

end Remark

/-! ## Finding comments -/

/-- The first action behind a text in which none is opened, even by its last brace, is the one read there. -/
theorem findAction?_append_braces {s inner after : List Char} {a : Action} (unopened : ¬['\x7b', '\x7b'] <:+: s)
    (apart : s.getLast? ≠ some '\x7b') (read : readAction? inner = some (a, after)) :
    findAction? (s ++ '\x7b' :: '\x7b' :: inner) = some (s, a, after) := by
  induction s with
  | nil => rw [List.nil_append, findAction?_braces, read]
  | cons c s induction =>
      have unopenedRest : ¬['\x7b', '\x7b'] <:+: s := fun known =>
        unopened (known.trans (List.infix_cons List.infix_rfl))
      have apartRest : s.getLast? ≠ some '\x7b' := by
        cases s with
        | nil => simp
        | cons d s => rwa [List.getLast?_cons_cons] at apart
      have other (rest : List Char) : c :: (s ++ '\x7b' :: '\x7b' :: inner) ≠ '\x7b' :: '\x7b' :: rest := by
        intro same
        cases s with
        | nil =>
            cases same
            exact apart rfl
        | cons d s =>
            cases same
            exact unopened ⟨[], s, rfl⟩
      rw [List.cons_append, findAction?_other other, induction unopenedRest apartRest]
      rfl

/-- Trimming opens no action. -/
theorem trimmed_infix_self (before after : Bool) (s : List Char) : trimmed before after s <:+: s := by
  have start (s : List Char) : Text.trimStartWith isSpace s <:+: s := (List.dropWhile_suffix isSpace).isInfix
  have behind (s : List Char) : Text.trimEndWith isSpace s <:+: s := by
    have reversed := (List.dropWhile_suffix isSpace (l := s.reverse)).isInfix
    rwa [← List.reverse_infix, List.reverse_reverse] at reversed
  cases before <;> cases after
  · exact List.infix_rfl
  · exact behind s
  · exact start s
  · exact (behind _).trans (start s)

/-! ## Cutting and compiling -/

theorem cutAfter_spell_cons {first : List Char} {r : Remark} (closed : ¬['*', '/'] <:+: r.text)
    (unopened : ¬['\x7b', '\x7b'] <:+: first) (apart : first.getLast? ≠ some '\x7b') (rest : List Remark)
    (trims : Bool) :
    ∃ body, isWholeComment body = true ∧ cutAfter trims (spell first (r :: rest)) =
      .text (trimmed trims r.trimsBefore first) :: .action ⟨body, r.trimsBefore, r.trimsAfter⟩ ::
        cutAfter r.trimsAfter (spell r.follow rest) := by
  obtain ⟨body, whole, read⟩ := r.readAction?_inner closed (spell r.follow rest)
  have written : spell first (r :: rest) = first ++ '\x7b' :: '\x7b' :: (r.inner ++ spell r.follow rest) := by
    simp [spell, Remark.spelling]
  refine ⟨body, whole, ?_⟩
  rw [written, cutAfter_eq, findAction?_append_braces unopened apart read]

theorem action_of_isWholeComment {body : List Char} (whole : isWholeComment body = true)
    (isFunction : List Char → Bool) (state : CompileState) : state.action isFunction body = .ok (state, []) := by
  rw [isWholeComment, Bool.and_eq_true] at whole
  rw [CompileState.action, if_pos whole.1, if_pos whole.2]

theorem textTags_trimmed {s : List Char} (unopened : ¬['\x7b', '\x7b'] <:+: s) (before after : Bool) :
    ∃ page, textTags (trimmed before after s) = .ok page ∧ Prints page (trimmed before after s) := by
  apply Prints.textTags
  rw [hasPair_eq_false_iff]
  exact fun known => unopened (known.trans (trimmed_infix_self before after s))

/-- A template of texts and comments becomes a page of what is kept of the texts. -/
theorem compileFrom_spell {first : List Char} {remarks : List Remark}
    (closed : ∀ r ∈ remarks, ¬['*', '/'] <:+: r.text)
    (unopened : ∀ s ∈ fragments first remarks, ¬['\x7b', '\x7b'] <:+: s)
    (apart : ∀ s ∈ (fragments first remarks).dropLast, s.getLast? ≠ some '\x7b')
    (isFunction : List Char → Bool) (state : CompileState) (trims : Bool) :
    ∃ page, compileFrom isFunction state (cutAfter trims (spell first remarks)) = .ok (state, page) ∧
      Prints page (kept trims first remarks) := by
  induction remarks generalizing first trims with
  | nil =>
      have unopenedFirst := unopened first List.mem_cons_self
      obtain ⟨page, tags, prints⟩ := textTags_trimmed unopenedFirst trims false
      refine ⟨page, ?_, prints⟩
      rw [spell, cutAfter_eq, findAction?_eq_none (hasPair_eq_false_iff.mpr unopenedFirst)]
      simp [compileFrom, pieceTags, tags, Except.map]
  | cons r rest induction =>
      have unopenedFirst := unopened first List.mem_cons_self
      obtain ⟨body, whole, pieces⟩ := cutAfter_spell_cons (closed r List.mem_cons_self) unopenedFirst
        (apart first List.mem_cons_self) rest trims
      obtain ⟨page, tags, prints⟩ := textTags_trimmed unopenedFirst trims r.trimsBefore
      have unopenedRest : ∀ s ∈ fragments r.follow rest, ¬['\x7b', '\x7b'] <:+: s :=
        fun s known => unopened s (List.mem_cons_of_mem first known)
      have apartRest : ∀ s ∈ (fragments r.follow rest).dropLast, s.getLast? ≠ some '\x7b' :=
        fun s known => apart s (List.mem_cons_of_mem first known)
      obtain ⟨more, compiled, printsMore⟩ :=
        induction (fun r' known => closed r' (List.mem_cons_of_mem r known)) unopenedRest apartRest r.trimsAfter
      refine ⟨page ++ more, ?_, prints.append printsMore⟩
      rw [pieces]
      simp only [compileFrom, pieceTags, tags, action_of_isWholeComment whole, Except.map, ok_bind, compiled,
        List.nil_append]

/-- Text around comments is kept: a template of texts and comments is rendered as its texts, without the space
that the comments drop.  This is also what the source of its page shows, so no two pieces of the page make a
tag or an end of a line where they meet. -/
theorem render_spell {first : List Char} {remarks : List Remark}
    (closed : ∀ r ∈ remarks, ¬['*', '/'] <:+: r.text)
    (unopened : ∀ s ∈ fragments first remarks, ¬['\x7b', '\x7b'] <:+: s)
    (apart : ∀ s ∈ (fragments first remarks).dropLast, s.getLast? ≠ some '\x7b')
    (functions : List Function) (p : Project.Parameters) :
    render functions p (spell first remarks) = .ok (kept false first remarks) ∧
      ∃ page, toPage functions (spell first remarks) = .ok page ∧
        Shows (unified page.source) (kept false first remarks) := by
  obtain ⟨page, compiled, prints⟩ := compileFrom_spell closed unopened apart (hasFunction functions) {} false
  have toPage : toPage functions (spell first remarks) = .ok page := by
    rw [toPage, compile, cut, compiled]
    rfl
  exact ⟨prints.render toPage p, page, toPage, prints.shows⟩

/-- A text whose brace makes a tag with the text behind the next comment. -/
def seamText : List Char :=
  "a\r\nb\x7b \t".toList

/-- Comments whose texts make tags and an end of a line where they meet. -/
def seamRemarks : List Remark :=
  [⟨" /* ".toList, true, false, "% '\"\\ %\x7d\x7d\x7b \t".toList⟩,
    ⟨"\x7b\x7b*".toList, true, true, " \n# c\r".toList⟩,
    ⟨[], false, false, "\n\x7b".toList⟩]

/-- What is kept of the texts. -/
def seamKept : List Char :=
  "a\r\nb\x7b% '\"\\ %\x7d\x7d\x7b# c\r\n\x7b".toList

theorem render_spell_seams :
    (∀ r ∈ seamRemarks, ¬['*', '/'] <:+: r.text) ∧
      (∀ s ∈ fragments seamText seamRemarks, ¬['\x7b', '\x7b'] <:+: s) ∧
      (∀ s ∈ (fragments seamText seamRemarks).dropLast, s.getLast? ≠ some '\x7b') ∧
      kept false seamText seamRemarks = seamKept ∧
      render [] ⟨"demo", Project.noPort, by decide⟩ (spell seamText seamRemarks) = .ok seamKept ∧
      ∃ page, toPage [] (spell seamText seamRemarks) = .ok page ∧ Shows (unified page.source) seamKept := by
  have closed : ∀ r ∈ seamRemarks, ¬['*', '/'] <:+: r.text := by decide +kernel
  have unopened : ∀ s ∈ fragments seamText seamRemarks, ¬['\x7b', '\x7b'] <:+: s := by decide +kernel
  have apart : ∀ s ∈ (fragments seamText seamRemarks).dropLast, s.getLast? ≠ some '\x7b' := by decide +kernel
  have same : kept false seamText seamRemarks = seamKept := by decide +kernel
  have rendered := render_spell closed unopened apart [] ⟨"demo", Project.noPort, by decide⟩
  rw [same] at rendered
  exact ⟨closed, unopened, apart, same, rendered⟩

end Stencil.Template
