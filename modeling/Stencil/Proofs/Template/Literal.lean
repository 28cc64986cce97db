import Mathlib
import Stencil.Data.Json.Writer
import Stencil.Proofs.Template.Comments
import Stencil.Proofs.Template.Formats
import Stencil.Proofs.Template.Grammar
import Stencil.Proofs.Template.Source
import Stencil.Proofs.Template.Verbatim

/-!
# Literals

A text is written as a literal in three ways: between double marks with the escapes of data files, between back
marks as it stands, and in a page with escapes of its own.  Whoever reads the literal has the text again.
-/

namespace Stencil.Template

variable {s inner rest : List Char}

/-! ## Between double marks -/

/-- Whether a text can stand between double marks on one line: it is made of plain characters and of pairs of a
backslash and another character. -/
inductive IsInner : List Char → Prop
  /-- Nothing. -/
  | nothing : IsInner []
  /-- A plain character. -/
  | plain {c : Char} {rest : List Char} (other : c ∉ ['"', '\\', '\n']) : IsInner rest → IsInner (c :: rest)
  /-- A character behind a backslash. -/
  | pair {c : Char} {rest : List Char} (sameLine : c ≠ '\n') : IsInner rest → IsInner ('\\' :: c :: rest)

/-- Inside of a literal no braces end a body. -/
theorem readBody?_inside {mode next : Mode} {c : Char} (inside : mode ≠ .plain) (following : mode.next? c = some next)
    (rest : List Char) : readBody? mode (c :: rest) = (readBody? next rest).map (.cons c) :=
  readBody?_cons (fun same => absurd same inside) following

namespace IsInner

theorem append_plain {first : List Char} (others : ∀ c ∈ first, c ∉ ['"', '\\', '\n']) (inside : IsInner rest) :
    IsInner (first ++ rest) := by
  induction first with
  | nil => exact inside
  | cons c first induction =>
      exact .plain (others c List.mem_cons_self) (induction fun d known => others d (List.mem_cons_of_mem c known))

/-- It is the inside of the token that its marks make of it. -/
theorem readQuoted? (inside : IsInner inner) (rest : List Char) :
    Template.readQuoted? (inner ++ '"' :: rest) = some (inner ++ ['"'], rest) := by
  induction inside with
  | nothing => rfl
  | @plain c inner other _ induction =>
      simp only [List.mem_cons, List.not_mem_nil, or_false, not_or] at other
      obtain ⟨noMark, noSlash, noLine⟩ := other
      rw [List.cons_append, Template.readQuoted?, if_neg (not_or.mpr ⟨noLine, noSlash⟩), induction]
      · rfl
      · exact noMark
      · rintro d more rfl
        exact absurd rfl noSlash
  | @pair c inner sameLine _ induction =>
      rw [List.cons_append, List.cons_append, Template.readQuoted?, if_neg sameLine, induction]
      rfl

/-- A body in which it stands goes on behind the mark that ends it. -/
theorem readBody? (inside : IsInner inner) {body : Body} (behind : Template.readBody? .plain rest = some body) :
    Template.readBody? .quoted (inner ++ '"' :: rest) = some { body with text := inner ++ '"' :: body.text } := by
  induction inside with
  | nothing =>
      have ends : Mode.quoted.next? '"' = some .plain := rfl
      rw [List.nil_append, readBody?_inside (by decide) ends, behind]
      rfl
  | @plain c inner other _ induction =>
      simp only [List.mem_cons, List.not_mem_nil, or_false, not_or] at other
      obtain ⟨noMark, noSlash, noLine⟩ := other
      have goesOn : Mode.quoted.next? c = some .quoted := by simp [Mode.next?, noMark, noSlash, noLine]
      rw [List.cons_append, readBody?_inside (by decide) goesOn, induction]
      rfl
  | @pair c inner sameLine _ induction =>
      have escapes : Mode.quoted.next? '\\' = some .escaped := rfl
      have goesOn : Mode.escaped.next? c = some .quoted := rfl
      rw [List.cons_append, List.cons_append, readBody?_inside (by decide) escapes,
        readBody?_inside (by decide) goesOn, induction]
      rfl

end IsInner

/-! ### The escapes of data files -/

/-- Whether what is written between double marks is read there as one character. -/
structure IsEscapeOf (written : List Char) (c : Char) : Prop where
  /-- It does not end the literal. -/
  inner : ∀ {rest}, IsInner rest → IsInner (written ++ rest)
  /-- It ends no line and is no null character. -/
  solid : ∀ d ∈ written, d ≠ '\r' ∧ d ≠ '\x00'
  /-- It stands for the character. -/
  stands : ∀ column rest, ∃ column',
    Text.unescapeFrom column (written ++ rest) = (Text.unescapeFrom column' rest).map (c :: ·)

private theorem hexDigit_solid : ∀ n < 16, Text.hexDigit n ∉ ['"', '\\', '\n', '\r', '\x00'] := by
  decide

theorem solid_of_mem_hexPadded {width n : Nat} {c : Char} (known : c ∈ Text.hexPadded width n) :
    c ∉ ['"', '\\', '\n', '\r', '\x00'] := by
  induction width generalizing n with
  | zero => cases known
  | succ width induction =>
      rw [Text.hexPadded] at known
      rcases List.mem_append.mp known with before | last
      · exact induction before
      · rw [List.mem_singleton.mp last]
        exact hexDigit_solid (n % 16) (Nat.mod_lt n (by decide))

namespace IsEscapeOf

variable {c d : Char}

theorem self (other : c ∉ ['"', '\\', '\n', '\r', '\x00']) : IsEscapeOf [c] c := by
  simp only [List.mem_cons, List.not_mem_nil, or_false, not_or] at other
  obtain ⟨noMark, noSlash, noLine, noReturn, noNull⟩ := other
  refine ⟨.plain (by simp [noMark, noSlash, noLine]), ?_, fun column rest => ?_⟩
  · simp [noReturn, noNull]
  · exact ⟨_, Text.unescapeFrom_plain noSlash rest column⟩

theorem pair (solid : d ∉ ['\n', '\r', '\x00'])
    (read : ∀ column rest, Text.readEscape column (d :: rest) = .ok ([c], 2, rest)) : IsEscapeOf ['\\', d] c := by
  simp only [List.mem_cons, List.not_mem_nil, or_false, not_or] at solid
  obtain ⟨noLine, noReturn, noNull⟩ := solid
  refine ⟨.pair noLine, ?_, fun column rest => ?_⟩
  · simp [noReturn, noNull]
  · exact ⟨_, Text.unescapeFrom_escape (read column rest)⟩

theorem code (small : c.toNat < 16 ^ 4) : IsEscapeOf ('\\' :: 'u' :: Text.hexPadded 4 c.toNat) c := by
  have digits (d : Char) (known : d ∈ Text.hexPadded 4 c.toNat) := solid_of_mem_hexPadded known
  simp only [List.mem_cons, List.not_mem_nil, or_false, not_or] at digits
  refine ⟨fun inside => .pair (by decide) ?_, ?_, fun column rest => ?_⟩
  · apply inside.append_plain
    intro d known
    simp [digits d known]
  · intro d known
    rcases List.mem_cons.mp known with rfl | known
    · decide
    rcases List.mem_cons.mp known with rfl | known
    · decide
    · simp [digits d known]
  · have read : Text.readEscape column ('u' :: (Text.hexPadded 4 c.toNat ++ rest)) = .ok ([c], 6, rest) :=
      Text.readCode_hexPadded small column .shortUnit rest
    exact ⟨_, Text.unescapeFrom_escape read⟩

/-- What data files write for a character is read as that character. -/
theorem escapeChar (c : Char) : IsEscapeOf (Data.Json.escapeChar c) c := by
  unfold Data.Json.escapeChar
  split_ifs with mark slash line ret tab feed back control
  · rw [mark]
    exact pair (by decide) fun column rest => rfl
  · rw [slash]
    exact pair (by decide) fun column rest => rfl
  · rw [line]
    exact pair (by decide) fun column rest => rfl
  · rw [ret]
    exact pair (by decide) fun column rest => rfl
  · rw [tab]
    exact pair (by decide) fun column rest => rfl
  · rw [feed]
    exact pair (by decide) fun column rest => rfl
  · rw [back]
    exact pair (by decide) fun column rest => rfl
  · exact code (Nat.lt_trans control (by decide))
  · have noNull : c ≠ '\x00' := by
      rintro rfl
      exact control (by decide)
    exact self (by simp [mark, slash, line, ret, noNull])

end IsEscapeOf

/-- What data files write for a text is read as that text. -/
structure IsEscapedText (written s : List Char) : Prop where
  /-- It does not end the literal. -/
  inner : IsInner written
  /-- It ends no line and holds no null character. -/
  solid : ∀ d ∈ written, d ≠ '\r' ∧ d ≠ '\x00'
  /-- It stands for the text. -/
  stands : ∀ column, Text.unescapeFrom column written = .ok s

theorem isEscapedText_flatMap (s : List Char) : IsEscapedText (s.flatMap Data.Json.escapeChar) s := by
  induction s with
  | nil => exact ⟨.nothing, by simp, fun column => by rw [List.flatMap_nil, Text.unescapeFrom]⟩
  | cons c s induction =>
      have first := IsEscapeOf.escapeChar c
      rw [List.flatMap_cons]
      refine ⟨first.inner induction.inner, fun d known => ?_, fun column => ?_⟩
      · exact (List.mem_append.mp known).elim (first.solid d) (induction.solid d)
      · obtain ⟨column', read⟩ := first.stands column (s.flatMap Data.Json.escapeChar)
        rw [read, induction.stands column']
        rfl

theorem openLine?_eq_none (line : Nat) (free : '\r' ∉ s) : openLine? line s = none := by
  fun_induction openLine? line s with
  | case1 => rfl
  | case2 line c rest induction =>
      simp only [List.mem_cons, not_or] at free
      exact induction free.2.2
  | case3 line => simp at free
  | case4 line c rest _ _ induction =>
      simp only [List.mem_cons, not_or] at free
      exact induction free.2

theorem IsEscapedText.readLiteral (escaped : IsEscapedText inner s) : Template.readLiteral inner = .ok s := by
  have noReturn : '\r' ∉ inner := fun known => (escaped.solid _ known).1 rfl
  have noNull : '\x00' ∉ inner := fun known => (escaped.solid _ known).2 rfl
  have unlined : inner.map (fun c => if c = '\r' then '\n' else c) = inner :=
    (List.map_congr_left fun c known => if_neg (escaped.solid c known).1).trans (List.map_id' inner)
  rw [Template.readLiteral, if_neg noNull, openLine?_eq_none 1 noReturn]
  simp only [unlined, Text.unescape, escaped.stands]

/-! ## Between back marks -/

theorem readRaw?_append (free : rawMark ∉ s) (rest : List Char) : readRaw? (s ++ rawMark :: rest) = some (s, rest) := by
  induction s with
  | nil => rw [List.nil_append, readRaw?, if_pos rfl]
  | cons c s induction =>
      simp only [List.mem_cons, not_or] at free
      rw [List.cons_append, readRaw?, if_neg (Ne.symm free.1), induction free.2]
      rfl

theorem readBody?_raw (free : rawMark ∉ s) {body : Body} (behind : readBody? .plain rest = some body) :
    readBody? .raw (s ++ rawMark :: rest) = some { body with text := s ++ rawMark :: body.text } := by
  induction s with
  | nil =>
      have ends : Mode.raw.next? rawMark = some .plain := rfl
      rw [List.nil_append, readBody?_inside (by decide) ends, behind]
      rfl
  | cons c s induction =>
      simp only [List.mem_cons, not_or] at free
      have goesOn : Mode.raw.next? c = some .raw := by simp [Mode.next?, Ne.symm free.1]
      rw [List.cons_append, readBody?_inside (by decide) goesOn, induction free.2]
      rfl

/-! ## Literals in actions -/

/-- Whether what is written is one literal, whatever stands behind it, and stands for a text. -/
structure IsLiteral (written s : List Char) : Prop where
  /-- It stands between two marks of one kind. -/
  marked : ∃ mark ∈ ['"', rawMark], ∃ inner, written = mark :: inner ++ [mark]
  /-- A body in which it stands goes on behind it. -/
  cuts : ∀ {rest body}, readBody? .plain rest = some body →
    readBody? .plain (written ++ rest) = some { body with text := written ++ body.text }
  /-- It is read as the text. -/
  reads : ∀ scope : Scope, scope.read written = .ok (.text s)

theorem solid_of_mark {mark : Char} (known : mark ∈ ['"', rawMark]) :
    mark ≠ '}' ∧ isSpace mark = false ∧ Text.isBlank mark = false ∧ mark ≠ '-' ∧ mark ≠ '/' := by
  have solid : ∀ mark ∈ ['"', rawMark],
      mark ≠ '}' ∧ isSpace mark = false ∧ Text.isBlank mark = false ∧ mark ≠ '-' ∧ mark ≠ '/' := by
    rw [List.forall_mem_cons, List.forall_mem_singleton]
    decide
  exact solid mark known

/-- A body goes on behind a mark. -/
theorem readBody?_mark {mark : Char} {mode : Mode} (known : mark ∈ ['"', rawMark])
    (opens : Mode.plain.next? mark = some mode) (rest : List Char) :
    readBody? .plain (mark :: rest) = (readBody? mode rest).map (.cons mark) := by
  obtain ⟨other, solid, -⟩ := solid_of_mark known
  exact readBody?_cons (fun _ => endAt?_eq_none other solid rest) opens

/-- A text that a single token makes up. -/
theorem tokens_singleton {written : List Char} {token : Token} {c : Char} (head : written.head? = some c)
    (solid : Text.isBlank c = false) (read : readToken? written = some (token, [])) :
    tokens written = .ok [token] := by
  cases written with
  | nil => cases head
  | cons d rest =>
      cases head
      have start : Text.trimStart (c :: rest) = c :: rest := List.dropWhile_cons_of_neg (by simp [solid])
      have ended (fuel : Nat) : tokensOf fuel [] = .ok [] := by cases fuel <;> rfl
      rw [tokens, tokensOf]
      simp only [start, read, ended]
      rfl

/-- A text is read as what its single token stands for. -/
theorem read_of_tokens {scope : Scope} {written : List Char} {token : Token} {t : Term}
    (single : tokens written = .ok [token]) (continued : endsCommand [token] = false)
    (noWord : ∀ name, token ≠ .word name) (noGroup : token ≠ .opening) (stands : scope.atom token = .ok t) :
    scope.read written = .ok t := by
  have operand (fuel : Nat) : scope.readOperand (fuel + 1) [token] = .ok (t, []) := by
    rw [Scope.readOperand_of_ne_opening noGroup, stands]
    rfl
  have command (fuel : Nat) : scope.readCommand (fuel + 2) none [token] = .ok (t, []) := by
    rw [Scope.readCommand_value continued fun name same => absurd same (noWord name), operand]
    rfl
  rw [Scope.read, single]
  simp only [List.length_singleton, Scope.readPipeline, command, ok_bind]
  rfl

/-- What data files write for a text is one token. -/
theorem tokens_quoted (s : List Char) : tokens (Data.Json.quoted s) = .ok [.quoted (Data.Json.quoted s)] := by
  have read : readToken? (Data.Json.quoted s) = some (.quoted (Data.Json.quoted s), []) := by
    rw [Data.Json.quoted, List.cons_append, readToken?, if_pos rfl, (isEscapedText_flatMap s).inner.readQuoted? []]
    rfl
  exact tokens_singleton rfl (by decide) read

theorem isLiteral_quoted (s : List Char) : IsLiteral (Data.Json.quoted s) s := by
  have escaped := isEscapedText_flatMap s
  refine ⟨⟨'"', by decide, _, rfl⟩, fun behind => ?_, fun scope => ?_⟩
  · have opens : Mode.plain.next? '"' = some .quoted := rfl
    rw [Data.Json.quoted, List.cons_append, List.cons_append, List.append_assoc, List.singleton_append,
      readBody?_mark (by decide) opens, escaped.inner.readBody? behind]
    simp [Body.cons]
  · have inside : ((Data.Json.quoted s).drop 1).dropLast = s.flatMap Data.Json.escapeChar := by
      simp [Data.Json.quoted]
    have stands : scope.atom (.quoted (Data.Json.quoted s)) = .ok (.text s) := by
      simp only [Scope.atom, inside, escaped.readLiteral]
    exact read_of_tokens (tokens_quoted s) rfl (by simp) (by simp) stands

theorem isLiteral_raw (free : rawMark ∉ s) : IsLiteral (rawMark :: s ++ [rawMark]) s := by
  refine ⟨⟨rawMark, by decide, _, rfl⟩, fun behind => ?_, fun scope => ?_⟩
  · have opens : Mode.plain.next? rawMark = some .raw := rfl
    rw [List.cons_append, List.cons_append, List.append_assoc, List.singleton_append,
      readBody?_mark (by decide) opens, readBody?_raw free behind]
    simp [Body.cons]
  · have read : readToken? (rawMark :: s ++ [rawMark]) = some (.raw s, []) := by
      rw [List.cons_append, readToken?, if_neg (by decide), if_pos rfl, readRaw?_append free]
      rfl
    exact read_of_tokens (tokens_singleton rfl (by decide) read) rfl (by simp) (by simp) rfl

/-- The template whose only action is what is written, with something before and behind it between the braces. -/
def onlyAction (before written behind : List Char) : List Char :=
  '\x7b' :: '\x7b' :: (before ++ (written ++ (behind ++ ['\x7d', '\x7d'])))

theorem isBlank_solid {c : Char} (blank : Text.isBlank c = true) : c ∉ ['"', rawMark, '\x7d', '-', '/'] := by
  intro known
  have solid : ∀ d ∈ ['"', rawMark, '\x7d', '-', '/'], Text.isBlank d = false := by simp [Text.isBlank, rawMark]
  rw [solid c known] at blank
  cases blank

/-- A blank ends no action unless the mark of an end stands behind it. -/
theorem endAt?_blank {c : Char} (blank : Text.isBlank c = true) (apart : rest.head? ≠ some '-') :
    endAt? (c :: rest) = none := by
  cases found : endAt? (c :: rest) with
  | none => rfl
  | some result =>
      obtain ⟨mark, whole, ⟨-, rfl⟩ | ⟨-, d, -, rfl⟩⟩ := endAt?_eq_some found
      · injection whole with same
        exact absurd (by simp [same]) (isBlank_solid blank)
      · injection whole with _ behind
        exact absurd (congrArg List.head? behind) apart

/-- A body goes on behind blanks, unless the mark of an end stands there. -/
theorem readBody?_blanks {blanks : List Char} (blank : ∀ c ∈ blanks, Text.isBlank c = true)
    (apart : rest.head? ≠ some '-') {body : Body} (read : readBody? .plain rest = some body) :
    readBody? .plain (blanks ++ rest) = some { body with text := blanks ++ body.text } := by
  induction blanks with
  | nil => exact read
  | cons c blanks induction =>
      have solid := isBlank_solid (blank c List.mem_cons_self)
      have blankRest (d : Char) (known : d ∈ blanks) := blank d (List.mem_cons_of_mem c known)
      simp only [List.mem_cons, List.not_mem_nil, or_false, not_or] at solid
      obtain ⟨noMark, noRaw, -⟩ := solid
      have goesOn : Mode.plain.next? c = some .plain := by simp [Mode.next?, noMark, noRaw]
      have apartRest : (blanks ++ rest).head? ≠ some '-' := by
        cases blanks with
        | nil => exact apart
        | cons d blanks =>
            have other := isBlank_solid (blankRest d List.mem_cons_self)
            rw [List.cons_append, List.head?_cons]
            rintro ⟨⟩
            exact other (by simp)
      rw [List.cons_append, readBody?_cons (fun _ => endAt?_blank (blank c List.mem_cons_self) apartRest) goesOn,
        induction blankRest]
      rfl

namespace IsLiteral

variable {written before behind : List Char}

theorem isTrimmed (literal : IsLiteral written s) : Text.IsTrimmed written := by
  obtain ⟨mark, known, inner, rfl⟩ := literal.marked
  obtain ⟨-, -, solid, -⟩ := solid_of_mark known
  refine ⟨fun c first => ?_, fun c last => ?_⟩
  · cases first
    exact solid
  · rw [List.getLast?_concat] at last
    cases last
    exact solid

/-- Neither the words of blocks nor those of comments begin an action whose body is a literal. -/
theorem action (literal : IsLiteral written s) (state : CompileState) (isFunction : List Char → Bool) :
    state.action isFunction written = .ok (state, [.output (.text s)]) := by
  obtain ⟨mark, known, inner, marked⟩ := literal.marked
  obtain ⟨-, -, solid, -, noSlash⟩ := solid_of_mark known
  have noComment : CompileState.isComment written = false := by
    rw [marked, CompileState.isComment]
    simp [List.isPrefixOf, Ne.symm noSlash]
  obtain ⟨w, word⟩ : ∃ w, (Text.splitWord written).1 = mark :: w := by
    rw [marked, Text.splitWord, Text.trimStart, Text.trimStartWith]
    simp [solid]
  have apart : ∀ name ∈ Keyword.ifBlock.word :: Keyword.withBlock.word :: "else" :: "end" :: unsupportedWords,
      mark :: w ≠ name.toList := by
    have others : ∀ name ∈ Keyword.ifBlock.word :: Keyword.withBlock.word :: "else" :: "end" :: unsupportedWords,
        name.toList.head? ∉ [some '"', some rawMark] := by
      decide
    intro name member same
    have other := others name member
    rw [← same] at other
    rcases List.mem_pair.mp known with rfl | rfl <;> simp at other
  have noKeyword : Keyword.ofWord? (mark :: w) = none := by
    rw [Keyword.ofWord?, if_neg (apart _ (by simp)), if_neg (apart _ (by simp))]
  have supported : unsupportedWords.contains (String.ofList (mark :: w)) = false := by
    rw [Bool.eq_false_iff]
    intro listed
    refine apart _ (by simpa using .inr (.inr (.inr (.inr (List.contains_iff_mem.mp listed))))) ?_
    exact (String.toList_ofList ..).symm
  rw [CompileState.action, noComment, if_neg Bool.false_ne_true]
  simp only [word, noKeyword, if_neg (apart "else" (by simp)), if_neg (apart "end" (by simp)), supported]
  simp [CompileState.term, literal.reads, ok_bind]

/-- A template whose only action is a literal is cut at its braces. -/
theorem cut (literal : IsLiteral written s) (blankBefore : ∀ c ∈ before, Text.isBlank c = true)
    (blankBehind : ∀ c ∈ behind, Text.isBlank c = true) :
    Template.cut (onlyAction before written behind) = [.text [], .action ⟨written, false, false⟩, .text []] := by
  obtain ⟨mark, known, inner, marked⟩ := literal.marked
  have nonempty : written ≠ [] := by simp [marked]
  have ended : readBody? .plain (behind ++ ['\x7d', '\x7d']) = some ⟨behind, false, []⟩ := by
    have atEnd : readBody? .plain ['\x7d', '\x7d'] = some ⟨[], false, []⟩ := rfl
    simpa using readBody?_blanks blankBehind (by decide) atEnd
  have apart : (written ++ (behind ++ ['\x7d', '\x7d'])).head? ≠ some '-' := by
    obtain ⟨-, -, -, other, -⟩ := solid_of_mark known
    simpa [marked] using other
  have read := readBody?_blanks blankBefore apart (literal.cuts ended)
  have first : ∀ c rest, before ++ (written ++ (behind ++ ['\x7d', '\x7d'])) = c :: rest → c ≠ '-' ∧ c ≠ '/' := by
    intro c rest same
    cases before with
    | nil =>
        rw [marked] at same
        cases same
        exact (solid_of_mark known).2.2.2
    | cons d before =>
        cases same
        have other := isBlank_solid (blankBefore c List.mem_cons_self)
        simp only [List.mem_cons, not_or] at other
        exact ⟨other.2.2.2.1, other.2.2.2.2.1⟩
  have unmarked : ¬∃ c rest, before ++ (written ++ (behind ++ ['\x7d', '\x7d'])) = '-' :: c :: rest := by
    rintro ⟨c, rest, same⟩
    exact (first _ _ same).1 rfl
  have noComment : ∀ rest, before ++ (written ++ (behind ++ ['\x7d', '\x7d'])) ≠ '/' :: '*' :: rest :=
    fun rest same => (first _ _ same).2 rfl
  have trimmed := Text.trim_padded blankBefore blankBehind literal.isTrimmed nonempty
  rw [List.append_assoc] at trimmed
  have action : readAction? (before ++ (written ++ (behind ++ ['\x7d', '\x7d']))) =
      some (⟨written, false, false⟩, []) := by
    rw [readAction?_eq, untrimmed_eq_self unmarked, hasMark_eq_false unmarked, readUntrimmed?_body noComment, read]
    simp [trimmed]
  have found : findAction? (onlyAction before written behind) = some ([], ⟨written, false, false⟩, []) := by
    rw [onlyAction, findAction?_braces, action]
  have after : cutAfter false [] = [.text []] := by
    rw [cutAfter_eq]
    rfl
  rw [Template.cut, cutAfter_eq, found]
  simp only [after]
  rfl

/-- A template whose only action is a literal is rendered as what the literal stands for. -/
theorem render (literal : IsLiteral written s) (blankBefore : ∀ c ∈ before, Text.isBlank c = true)
    (blankBehind : ∀ c ∈ behind, Text.isBlank c = true) (functions : List Function) (p : Project.Parameters) :
    Template.render functions p (onlyAction before written behind) = .ok s := by
  have prints : Prints [.output (.text s)] (s ++ []) := .literal .nothing
  rw [List.append_nil] at prints
  apply prints.render
  rw [toPage, compile, literal.cut blankBefore blankBehind]
  simp [compileFrom, pieceTags, literal.action, textTags, Except.map, hasPair, ok_bind]

end IsLiteral

/-! ## Literals in pages -/

/-- A reader of the literals of a page; the ends of the lines of the page are one character. -/
structure LiteralReader where
  /-- What the literal at the head of a page stands for, and what stands behind it. -/
  read : List Char → Option (List Char × List Char)
  /-- A literal goes up to the next mark that no backslash stands before.  What is between the marks stands for what
  its escapes stand for once the ends of its lines are one character and all of it is ASCII. -/
  read_literal {mark : Char} {source inner behind s : List Char} (isMark : mark = '\'' ∨ mark = '"')
    (body : literalBody? mark source = some (inner, behind))
    (stands : Text.unescape (asciiForm (unified inner)) = .ok s) : read (mark :: source) = some (s, behind)

/-- The reader that reads no more than it has to. -/
def literalReader : LiteralReader where
  read
    | [] => none
    | mark :: source =>
      if mark = '\'' ∨ mark = '"' then
        (literalBody? mark source).bind fun (inner, behind) =>
          (Text.unescape (asciiForm (unified inner))).toOption.map (·, behind)
      else none
  read_literal isMark body stands := by
    simp [isMark, body, stands]

theorem asciiForm_append (s more : List Char) : asciiForm (s ++ more) = asciiForm s ++ asciiForm more :=
  List.flatMap_append

theorem asciiForm_eq_self (ascii : ∀ c ∈ s, c.toNat < 0x80) : asciiForm s = s := by
  induction s with
  | nil => rfl
  | cons c s induction =>
      have rest := induction fun d known => ascii d (List.mem_cons_of_mem c known)
      have first : asciiForm [c] = [c] := by simp [asciiForm, ascii c List.mem_cons_self]
      rw [← List.singleton_append, asciiForm_append, first, rest]

private theorem hexDigit_ascii : ∀ n < 16, (Text.hexDigit n).toNat < 0x80 := by
  decide

theorem ascii_of_mem_hexPadded {width n : Nat} {c : Char} (known : c ∈ Text.hexPadded width n) : c.toNat < 0x80 := by
  induction width generalizing n with
  | zero => cases known
  | succ width induction =>
      rw [Text.hexPadded] at known
      rcases List.mem_append.mp known with before | last
      · exact induction before
      · rw [List.mem_singleton.mp last]
        exact hexDigit_ascii (n % 16) (Nat.mod_lt n (by decide))

/-- What stands for a character between two marks is ASCII, unless it is the character itself. -/
theorem escapeChar_ascii {mark : Char} (isMark : mark = '\'' ∨ mark = '"') (c : Char) :
    (Text.escapeChar mark c = [c] ∧ c ≠ '\\') ∨ ∀ d ∈ Text.escapeChar mark c, d.toNat < 0x80 := by
  have code {letter : Char} {width : Nat} (ascii : letter.toNat < 0x80) :
      ∀ d ∈ '\\' :: letter :: Text.hexPadded width c.toNat, d.toNat < 0x80 := by
    rw [List.forall_mem_cons, List.forall_mem_cons]
    exact ⟨by decide, ascii, fun d known => ascii_of_mem_hexPadded known⟩
  unfold Text.escapeChar
  split_ifs with same tab line ret printable small medium
  · refine .inr ?_
    have ascii : c.toNat < 0x80 := by
      simp only [Bool.or_eq_true, decide_eq_true_eq] at same
      rcases same with rfl | rfl
      · rcases isMark with rfl | rfl <;> decide
      · decide
    simp [ascii]
  · exact .inr (by simp)
  · exact .inr (by simp)
  · exact .inr (by simp)
  · refine .inl ⟨rfl, ?_⟩
    simp only [Bool.or_eq_true, decide_eq_true_eq, not_or] at same
    exact same.2
  · exact .inr (code (by decide))
  · exact .inr (code (by decide))
  · exact .inr (code (by decide))

/-- A character that is escaped unless it is ASCII is read again. -/
theorem unescapeFrom_asciiForm {c : Char} (plain : c ≠ '\\') (rest : List Char) (column : Nat) :
    ∃ column', Text.unescapeFrom column (asciiForm [c] ++ rest) = (Text.unescapeFrom column' rest).map (c :: ·) := by
  have code {letter : Char} {width : Nat} {reason : Text.EscapeReason} (fits : c.toNat < 16 ^ width)
      (read : ∀ s, Text.readEscape column (letter :: s) = Text.readCode column width reason s) :
      ∃ column', Text.unescapeFrom column ('\\' :: letter :: Text.hexPadded width c.toNat ++ rest) =
        (Text.unescapeFrom column' rest).map (c :: ·) :=
    ⟨_, Text.unescapeFrom_escape ((read _).trans (Text.readCode_hexPadded fits column reason rest))⟩
  rw [asciiForm, List.flatMap_singleton]
  split_ifs with ascii small medium
  · exact ⟨_, Text.unescapeFrom_plain plain rest column⟩
  · exact code small fun s => rfl
  · exact code medium fun s => rfl
  · exact code (Nat.lt_trans (Text.toNat_lt c) (by decide)) fun s => rfl

/-- The escapes of a text stand for it also once all of them are ASCII. -/
theorem unescapeFrom_asciiForm_escapes {mark : Char} (isMark : mark = '\'' ∨ mark = '"') (s : List Char)
    (column : Nat) : Text.unescapeFrom column (asciiForm (s.flatMap (Text.escapeChar mark))) = .ok s := by
  induction s generalizing column with
  | nil => rw [List.flatMap_nil, asciiForm, List.flatMap_nil, Text.unescapeFrom]
  | cons c s induction =>
      have first (rest : List Char) : ∃ column', Text.unescapeFrom column (asciiForm (Text.escapeChar mark c) ++ rest) =
          (Text.unescapeFrom column' rest).map (c :: ·) := by
        rcases escapeChar_ascii isMark c with ⟨self, plain⟩ | ascii
        · rw [self]
          exact unescapeFrom_asciiForm plain rest column
        · rw [asciiForm_eq_self ascii]
          exact Text.unescapeFrom_escapeChar isMark c rest column
      obtain ⟨column', read⟩ := first (asciiForm (s.flatMap (Text.escapeChar mark)))
      rw [List.flatMap_cons, asciiForm_append, read, induction column']
      rfl

theorem unified_append (free : '\r' ∉ s) (rest : List Char) : unified (s ++ rest) = s ++ unified rest := by
  induction s with
  | nil => rfl
  | cons c s induction =>
      have freeRest : '\r' ∉ s := fun known => free (List.mem_cons_of_mem c known)
      have other : c ≠ '\r' := fun same => free (by simp [same])
      rw [List.cons_append, unified, induction freeRest]
      · rfl
      · rintro _ rfl
        exact absurd rfl other
      · rintro rfl
        exact absurd rfl other

/-- A reader of the literals of a page reads a text where the page has the text as an expression. -/
theorem LiteralReader.read_source (reader : LiteralReader) (s rest : List Char) :
    reader.read (unified ((Term.text s).source ++ rest)) = some (s, unified rest) := by
  have isMark := Text.quoteMark_cases s
  have free := return_not_mem_quoted s
  rw [Term.source, unified_append free, Text.quoted, List.cons_append, List.cons_append, List.append_assoc,
    List.singleton_append]
  have inner : unified (s.flatMap (Text.escapeChar (Text.quoteMark s))) =
      s.flatMap (Text.escapeChar (Text.quoteMark s)) := by
    refine unified_eq_self fun known => free ?_
    simp [Text.quoted, known]
  refine reader.read_literal isMark (literalBody?_quoted isMark s (unified rest)) ?_
  rw [inner]
  exact unescapeFrom_asciiForm_escapes isMark s 0

/-- The ends of lines are made one in two parts where no line feed begins the second part. -/
theorem unified_append_cons {c : Char} (other : c ≠ '\n') (front rest : List Char) :
    unified (front ++ c :: rest) = unified front ++ unified (c :: rest) := by
  fun_induction unified front with
  | case1 front induction => rw [List.cons_append, List.cons_append, unified, induction, List.cons_append]
  | case2 front noLine induction =>
      rw [List.cons_append, unified, induction, List.cons_append]
      intro behind same
      cases front with
      | nil => exact other (List.cons.inj same).1
      | cons d front => exact noLine front (by rw [(List.cons.inj same).1])
  | case3 d front noPair noReturn induction =>
      rw [List.cons_append, unified, induction, List.cons_append]
      · rintro behind rfl
        exact absurd rfl noReturn
      · exact fun same => absurd same noReturn
  | case4 => rfl

/-- Whether a text is an operand of an expression. -/
inductive Term.Holds (s : List Char) : Term → Prop
  /-- It is the expression. -/
  | text : Term.Holds s (.text s)
  /-- It is an operand of an argument of a call. -/
  | argument {function : List Char} {args : List Term} {t : Term} (member : t ∈ args) (holds : Term.Holds s t) :
    Term.Holds s (.call function args)

/-- Whether a text is an operand of a part of a page. -/
def Tag.Holds (s : List Char) : Tag → Prop
  | .output t | .assign _ t | .ifOpen t | .elifOpen t => t.Holds s
  | .data _ | .elseOpen | .endBlock => False

theorem infix_separated {part : List Char} {parts : List (List Char)} (member : part ∈ parts) :
    part <:+: separated parts := by
  fun_induction separated parts with
  | case1 => cases member
  | case2 last => rw [List.mem_singleton.mp member]
  | case3 first rest _ induction =>
      rcases List.mem_cons.mp member with rfl | later
      · exact (List.prefix_append part _).isInfix
      · refine (induction later).trans ?_
        exact (List.suffix_append (first ++ [',', ' ']) _).isInfix.trans (by simp)

theorem source_mem_sources {t : Term} {ts : List Term} (member : t ∈ ts) : t.source ∈ Term.sources ts := by
  induction ts with
  | nil => cases member
  | cons first rest induction =>
      rw [Term.sources]
      rcases List.mem_cons.mp member with rfl | later
      · exact List.mem_cons_self
      · exact List.mem_cons_of_mem _ (induction later)

/-- An operand is written as a literal in the source of its expression. -/
theorem Term.Holds.source {t : Term} (holds : t.Holds s) : (Term.text s).source <:+: t.source := by
  induction holds with
  | text => exact List.infix_rfl
  | @argument function args t member _ induction =>
      refine (induction.trans (infix_separated (source_mem_sources member))).trans ?_
      exact ⟨calleeName function ++ ['('], [')'], by simp [Term.source]⟩

/-- An operand is written as a literal in the source of a part of a page. -/
theorem Tag.Holds.source {tag : Tag} (holds : tag.Holds s) : (Term.text s).source <:+: tag.source := by
  have inTag (front behind : List Char) {t : Term} (holds : t.Holds s) :
      (Term.text s).source <:+: front ++ t.source ++ behind :=
    holds.source.trans ⟨front, behind, rfl⟩
  cases tag with
  | output t => exact inTag _ _ holds
  | assign binding t => exact inTag ("\x7b% set ".toList ++ dotName binding ++ " = ".toList) _ holds
  | ifOpen t => exact inTag "\x7b% if ".toList _ holds
  | elifOpen t => exact inTag "\x7b% elif ".toList _ holds
  | data => cases holds
  | elseOpen => cases holds
  | endBlock => cases holds

/-- An operand of a page is read where the source of the page has it as a literal. -/
theorem Page.exists_read {page : Page} {tag : Tag} (member : tag ∈ page) (holds : tag.Holds s) :
    ∃ front behind, page.source = front ++ ((Term.text s).source ++ behind) ∧
      unified page.source = unified front ++ unified ((Term.text s).source ++ behind) ∧
      ∀ reader : LiteralReader, reader.read (unified ((Term.text s).source ++ behind)) = some (s, unified behind) := by
  have inPage : tag.source <:+: page.source := by
    obtain ⟨before, after, rfl⟩ := List.append_of_mem member
    exact ⟨Page.source before, Page.source after, by simp [Page.source]⟩
  obtain ⟨front, behind, whole⟩ := holds.source.trans inPage
  rw [List.append_assoc] at whole
  refine ⟨front, behind, whole.symm, ?_, fun reader => reader.read_source s behind⟩
  rw [← whole, Term.source, Text.quoted, List.cons_append, List.cons_append]
  refine unified_append_cons ?_ front _
  rcases Text.quoteMark_cases s with mark | mark <;> rw [mark] <;> decide

/-! ## All literals of a text -/

theorem printf_quoted (s : List Char) :
    printf [.text "%q".toList, .text s] = .ok (.text (Data.Json.quoted s)) := by
  have pieces : formatPieces "%q".toList = [.verb [] 'q'] := by decide
  have plain : AsksFor [] {} := by
    refine ⟨⟨[], [], none⟩, ⟨List.forall_mem_nil _, ?_, List.forall_mem_nil _, ?_⟩,
      ⟨List.forall_mem_nil _, by decide, ?_⟩, rfl, rfl⟩ <;> rintro _ ⟨⟩
  have whole : Directive.placeCut {} (Data.Json.quoted s) = Data.Json.quoted s := by
    simp [Directive.placeCut, Directive.placeText]
  have laid : Lays {} 'q' (.text s) (Directive.placeCut {} (Data.Json.quoted s)) := .quoted
  have printed : formatted "%q".toList [.text s] = .ok (Data.Json.quoted s ++ []) := by
    rw [formatted_eq_ok_iff, pieces]
    rw [whole] at laid
    exact .verb plain laid .nil
  rw [printf, printed, List.append_nil]

/-- A text is read back from each of its literals: from the one that `%q` prints, from the one between back marks if
there is no such mark in the text, and from those of a page, which has the text as an operand, or because it would
not copy it as data. -/
theorem literals_readBack (s : List Char) :
    (printf [.text "%q".toList, .text s] = .ok (.text (Data.Json.quoted s)) ∧
      tokens (Data.Json.quoted s) = .ok [.quoted (Data.Json.quoted s)] ∧
      ∀ before behind, (∀ c ∈ before ++ behind, Text.isBlank c = true) → ∀ functions p,
        render functions p (onlyAction before (Data.Json.quoted s) behind) = .ok s) ∧
    (rawMark ∉ s → ∀ before behind, (∀ c ∈ before ++ behind, Text.isBlank c = true) → ∀ functions p,
      render functions p (onlyAction before (rawMark :: s ++ [rawMark]) behind) = .ok s) ∧
    (∀ page : Page, ∀ tag ∈ page, tag.Holds s →
      ∃ front behind, page.source = front ++ ((Term.text s).source ++ behind) ∧
        unified page.source = unified front ++ unified ((Term.text s).source ++ behind) ∧
        ∀ reader : LiteralReader,
          reader.read (unified ((Term.text s).source ++ behind)) = some (s, unified behind)) ∧
    (needsLiteral s = true → hasPair '\x7b' '\x7b' s = false → textTags s = .ok [.output (.text s)]) := by
  refine ⟨⟨printf_quoted s, tokens_quoted s, fun before behind blank functions p => ?_⟩,
    fun free before behind blank functions p => ?_, fun page tag member holds => Page.exists_read member holds,
    fun literal unopened => ?_⟩
  · rw [List.forall_mem_append] at blank
    exact (isLiteral_quoted s).render blank.1 blank.2 functions p
  · rw [List.forall_mem_append] at blank
    exact (isLiteral_raw free).render blank.1 blank.2 functions p
  · have some : s.isEmpty = false := by
      cases s with
      | nil => cases literal
      | cons c s => rfl
    simp [textTags, unopened, some, literal]

/-- A text of braces, quotes, trim marks and ends of lines is read back from each of its literals. -/
theorem literals_readBack_nasty :
    let s := "-\x7d\x7d \x7b% \"\\\r\n'é😀\t \x7b- */".toList
    let page : Page := [.data ['a'], .ifOpen (.call "not".toList [.text s])]
    rawMark ∉ s ∧ needsLiteral s = true ∧ hasPair '\x7b' '\x7b' s = false ∧
      render [] ⟨"demo", 8080, by decide⟩ (onlyAction ['\n'] (Data.Json.quoted s) [' ']) = .ok s ∧
      render [] ⟨"demo", 8080, by decide⟩ (onlyAction ['\n'] (rawMark :: s ++ [rawMark]) [' ']) = .ok s ∧
      (∃ front behind, page.source = front ++ ((Term.text s).source ++ behind) ∧
        literalReader.read (unified ((Term.text s).source ++ behind)) = some (s, unified behind)) ∧
      textTags s = .ok [.output (.text s)] := by
  intro s page
  obtain ⟨⟨-, -, quoted⟩, raw, operand, text⟩ := literals_readBack s
  have free : rawMark ∉ s := by decide
  have literal : needsLiteral s = true := by decide
  have unopened : hasPair '\x7b' '\x7b' s = false := by decide
  have blank : ∀ c ∈ ['\n'] ++ [' '], Text.isBlank c = true := by simp [Text.isBlank]
  have holds : (Tag.ifOpen (.call "not".toList [.text s])).Holds s := .argument List.mem_cons_self .text
  obtain ⟨front, behind, source, -, read⟩ := operand page _ (List.mem_cons_of_mem _ List.mem_cons_self) holds
  exact ⟨free, literal, unopened, quoted _ _ blank [] _, raw free _ _ blank [] _,
    ⟨front, behind, source, read literalReader⟩, text literal unopened⟩

end Stencil.Template
