import Stencil.Proofs.Outcome
import Stencil.Proofs.Text.Escape
import Stencil.Template.Compile
import Stencil.Template.Render

/-!
# What the source of a page shows

In the source of a page all ends of lines are one character, opening braces with a brace, a percent sign or a
hash behind them begin a tag, and everything else is data.  A page that consists of texts, some of them as
data and others as literals, shows these texts one after the other.
-/

namespace Stencil.Template

/-! ## Reading sources -/

/-- A text in which every end of a line is a line feed. -/
def unified : List Char → List Char
  | '\r' :: '\n' :: rest => '\n' :: unified rest
  | '\r' :: rest => '\n' :: unified rest
  | c :: rest => c :: unified rest
  | [] => []

/-- What stands before the mark that ends a literal, and what stands behind it. -/
def literalBody? (mark : Char) : List Char → Option (List Char × List Char)
  | [] => none
  | '\\' :: c :: rest => (literalBody? mark rest).map fun (inner, behind) => ('\\' :: c :: inner, behind)
  | c :: rest =>
    if c = mark then some ([], rest)
    else (literalBody? mark rest).map fun (inner, behind) => (c :: inner, behind)

/-- Whether a source of data and printed literals shows a text. -/
inductive Shows : List Char → List Char → Prop
  /-- Nothing shows nothing. -/
  | nothing : Shows [] []
  /-- A character that begins no tag shows itself. -/
  | character {c : Char} {rest text : List Char}
    (plain : c = '\x7b' → rest.head? ∉ [some '\x7b', some '%', some '#']) (later : Shows rest text) :
    Shows (c :: rest) (c :: text)
  /-- A printed literal shows what its escapes stand for. -/
  | literal {mark : Char} {source inner rest read text : List Char} (isMark : mark = '\'' ∨ mark = '"')
    (body : literalBody? mark source = some (inner, ' ' :: '\x7d' :: '\x7d' :: rest))
    (stands : Text.unescape inner = .ok read) (later : Shows rest text) :
    Shows ('\x7b' :: '\x7b' :: ' ' :: mark :: source) (read ++ text)

/-- A source shows one text at most. -/
theorem Shows.unique {source text text' : List Char} (first : Shows source text) (second : Shows source text') :
    text = text' := by
  induction first generalizing text' with
  | nothing =>
      cases second
      rfl
  | character plain _ induction =>
      cases second with
      | character _ later => rw [induction later]
      | literal => exact absurd (by simp) (plain rfl)
  | literal _ body stands _ induction =>
      cases second with
      | character plain => exact absurd (by simp) (plain rfl)
      | literal _ body' stands' later =>
          rw [body] at body'
          cases body'
          rw [stands] at stands'
          cases stands'
          rw [induction later]

theorem unified_eq_self {s : List Char} (free : '\r' ∉ s) : unified s = s := by
  induction s with
  | nil => rfl
  | cons c rest induction =>
      have freeRest : '\r' ∉ rest := fun known => free (List.mem_cons_of_mem c known)
      have other : c ≠ '\r' := fun same => free (by simp [same])
      rw [unified, induction freeRest]
      · rintro _ rfl
        exact absurd rfl other
      · rintro rfl
        exact absurd rfl other

/-! ## Literals -/

private theorem hexDigit_plain : ∀ n < 16,
    Text.hexDigit n ∉ ['\'', '"', '\\', '\r'] := by
  decide

theorem mem_hexPadded {width n : Nat} {c : Char} (known : c ∈ Text.hexPadded width n) :
    c ∉ ['\'', '"', '\\', '\r'] := by
  induction width generalizing n with
  | zero => cases known
  | succ width induction =>
      rw [Text.hexPadded] at known
      rcases List.mem_append.mp known with before | last
      · exact induction before
      · rw [List.mem_singleton.mp last]
        exact hexDigit_plain (n % 16) (Nat.mod_lt n (by decide))

/-- A character is written as it is, or behind a backslash. -/
theorem escapeChar_cases {mark : Char} (isMark : mark = '\'' ∨ mark = '"') (c : Char) :
    (Text.escapeChar mark c = [c] ∧ c ≠ mark ∧ c ≠ '\\' ∧ c ≠ '\r') ∨
      ∃ d digits, Text.escapeChar mark c = '\\' :: d :: digits ∧ d ≠ '\r' ∧
        ∀ e ∈ digits, e ∉ ['\'', '"', '\\', '\r'] := by
  unfold Text.escapeChar
  split
  case isTrue same =>
    refine .inr ⟨c, [], rfl, ?_, nofun⟩
    rintro rfl
    rcases isMark with rfl | rfl <;> simp at same
  case isFalse different =>
  simp only [Bool.or_eq_true, decide_eq_true_eq, not_or] at different
  split
  case isTrue => exact .inr ⟨'t', [], rfl, by decide, nofun⟩
  case isFalse =>
  split
  case isTrue => exact .inr ⟨'n', [], rfl, by decide, nofun⟩
  case isFalse =>
  split
  case isTrue => exact .inr ⟨'r', [], rfl, by decide, nofun⟩
  case isFalse other =>
  split
  case isTrue => exact .inl ⟨rfl, different.1, different.2, other⟩
  case isFalse =>
  split
  case isTrue => exact .inr ⟨'x', _, rfl, by decide, fun e known => mem_hexPadded known⟩
  case isFalse =>
  split
  case isTrue => exact .inr ⟨'u', _, rfl, by decide, fun e known => mem_hexPadded known⟩
  case isFalse => exact .inr ⟨'U', _, rfl, by decide, fun e known => mem_hexPadded known⟩

theorem literalBody?_plain {mark c : Char} (other : c ≠ mark) (plain : c ≠ '\\') (rest : List Char) :
    literalBody? mark (c :: rest) =
      (literalBody? mark rest).map fun (inner, behind) => (c :: inner, behind) := by
  rw [literalBody?, if_neg other]
  rintro d more rfl
  exact absurd rfl plain

theorem literalBody?_append {mark : Char} {first : List Char} (plain : ∀ c ∈ first, c ≠ mark ∧ c ≠ '\\')
    (rest : List Char) : literalBody? mark (first ++ rest) =
      (literalBody? mark rest).map fun (inner, behind) => (first ++ inner, behind) := by
  induction first with
  | nil => simp
  | cons c first induction =>
      obtain ⟨other, unescaped⟩ := plain c List.mem_cons_self
      rw [List.cons_append, literalBody?_plain other unescaped,
        induction fun d known => plain d (List.mem_cons_of_mem c known), Option.map_map]
      rfl

theorem literalBody?_escapeChar {mark : Char} (isMark : mark = '\'' ∨ mark = '"') (c : Char) (rest : List Char) :
    literalBody? mark (Text.escapeChar mark c ++ rest) =
      (literalBody? mark rest).map fun (inner, behind) => (Text.escapeChar mark c ++ inner, behind) := by
  rcases escapeChar_cases isMark c with ⟨plain, other, unescaped, -⟩ | ⟨d, digits, escaped, -, plain⟩
  · rw [plain]
    exact literalBody?_plain other unescaped rest
  · have apart : ∀ e ∈ digits, e ≠ mark ∧ e ≠ '\\' := by
      intro e known
      have different := plain e known
      simp only [List.mem_cons, List.not_mem_nil, or_false, not_or] at different
      rcases isMark with rfl | rfl
      · exact ⟨different.1, different.2.2.1⟩
      · exact ⟨different.2.1, different.2.2.1⟩
    rw [escaped, List.cons_append, List.cons_append, literalBody?, literalBody?_append apart, Option.map_map]
    rfl

/-- The quoted form of a text ends at its last mark. -/
theorem literalBody?_quoted {mark : Char} (isMark : mark = '\'' ∨ mark = '"') (s rest : List Char) :
    literalBody? mark (s.flatMap (Text.escapeChar mark) ++ mark :: rest) =
      some (s.flatMap (Text.escapeChar mark), rest) := by
  induction s with
  | nil =>
      rw [List.flatMap_nil, List.nil_append]
      rcases isMark with rfl | rfl <;> simp [literalBody?]
  | cons c s induction =>
      rw [List.flatMap_cons, List.append_assoc, literalBody?_escapeChar isMark, induction]
      rfl

theorem return_not_mem_quoted (s : List Char) : '\r' ∉ Text.quoted s := by
  have isMark := Text.quoteMark_cases s
  have other : '\r' ≠ Text.quoteMark s := by
    rcases isMark with mark | mark <;> rw [mark] <;> decide
  have written : '\r' ∉ s.flatMap (Text.escapeChar (Text.quoteMark s)) := by
    intro known
    obtain ⟨c, -, inside⟩ := List.mem_flatMap.mp known
    rcases escapeChar_cases isMark c with ⟨plain, -, -, noReturn⟩ | ⟨d, digits, escaped, noReturn, plain⟩
    · rw [plain, List.mem_singleton] at inside
      exact noReturn inside.symm
    · rw [escaped, List.mem_cons, List.mem_cons] at inside
      rcases inside with slash | letter | digit
      · cases slash
      · exact noReturn letter.symm
      · exact plain _ digit (by simp)
  simp [Text.quoted, other, written]

/-! ## Data -/

theorem Page.source_cons (tag : Tag) (page : Page) : Page.source (tag :: page) = tag.source ++ page.source :=
  List.flatMap_cons

theorem needsLiteral_eq_false_iff {s : List Char} : needsLiteral s = false ↔
    hasPair '\x7b' '%' s = false ∧ hasPair '\x7b' '#' s = false ∧ '\r' ∉ s ∧ s.getLast? ≠ some '\x7b' := by
  simp [needsLiteral, and_assoc]

theorem hasPair_cons_eq_false {a b c : Char} {s : List Char} (absent : hasPair a b (c :: s) = false) :
    hasPair a b s = false ∧ (c = a → s.head? ≠ some b) := by
  cases s with
  | nil => exact ⟨rfl, fun _ => by simp⟩
  | cons d s =>
      rw [hasPair, Bool.or_eq_false_iff] at absent
      exact ⟨absent.2, fun first second => by simp_all⟩

/-- Data in which no tag begins shows itself, whatever stands behind it. -/
theorem Shows.behind_data {s source text : List Char} (later : Shows source text)
    (unopened : hasPair '\x7b' '\x7b' s = false) (copied : needsLiteral s = false) :
    Shows (s ++ source) (s ++ text) := by
  obtain ⟨noBlock, noRemark, -, last⟩ := needsLiteral_eq_false_iff.mp copied
  clear copied
  induction s with
  | nil => exact later
  | cons c s induction =>
      obtain ⟨unopenedRest, noBrace⟩ := hasPair_cons_eq_false unopened
      obtain ⟨noBlockRest, noPercent⟩ := hasPair_cons_eq_false noBlock
      obtain ⟨noRemarkRest, noHash⟩ := hasPair_cons_eq_false noRemark
      cases s with
      | nil =>
          -- The text behind the data might make a tag of a brace at its end.
          have other : c ≠ '\x7b' := by simpa using last
          exact .character (fun brace => absurd brace other) later
      | cons d s =>
          rw [List.getLast?_cons_cons] at last
          apply Shows.character
          · intro brace
            have braceNext := noBrace brace
            have percentNext := noPercent brace
            have hashNext := noHash brace
            simp only [List.head?_cons] at braceNext percentNext hashNext
            simp [braceNext, percentNext, hashNext]
          · exact induction unopenedRest noBlockRest noRemarkRest last

/-! ## Pages of texts -/

/-- Whether a page prints a text in pieces, each of them as data, which a page copies, or as a literal. -/
inductive Prints : Page → List Char → Prop
  /-- The empty page prints nothing. -/
  | nothing : Prints [] []
  /-- Data prints itself. -/
  | data {s text : List Char} {page : Page} (unopened : hasPair '\x7b' '\x7b' s = false)
    (copied : needsLiteral s = false) (later : Prints page text) : Prints (.data s :: page) (s ++ text)
  /-- A literal prints what it stands for. -/
  | literal {s text : List Char} {page : Page} (later : Prints page text) :
    Prints (.output (.text s) :: page) (s ++ text)

namespace Prints

variable {page page' : Page} {s text : List Char}

theorem append {text' : List Char} (first : Prints page text) (second : Prints page' text') :
    Prints (page ++ page') (text ++ text') := by
  induction first with
  | nothing => exact second
  | data unopened copied _ induction =>
      rw [List.append_assoc]
      exact .data unopened copied induction
  | literal _ induction =>
      rw [List.append_assoc]
      exact .literal induction

theorem textTags (unopened : hasPair '\x7b' '\x7b' s = false) :
    ∃ page, Template.textTags s = .ok page ∧ Prints page s := by
  by_cases none : s = []
  · rw [none]
    exact ⟨[], rfl, .nothing⟩
  · have some : s.isEmpty = false := List.isEmpty_eq_false_iff.mpr none
    by_cases literal : needsLiteral s = true
    · refine ⟨[.output (.text s)], by simp [Template.textTags, unopened, some, literal], ?_⟩
      have printed := Prints.literal (s := s) .nothing
      rwa [List.append_nil] at printed
    · refine ⟨[.data s], by simp [Template.textTags, unopened, some, literal], ?_⟩
      have printed := Prints.data unopened (by simpa using literal) .nothing
      rwa [List.append_nil] at printed

/-- The statements of a page of texts print them. -/
theorem runs (prints : Prints page text) (done : List Statement) :
    ∃ statements, nestFrom [] done page = .ok (done.reverse ++ statements) ∧
      ∀ env, Statement.runAll env statements = .ok (text, env) := by
  induction prints generalizing done with
  | nothing => exact ⟨[], by simp [nestFrom], fun env => by rw [Statement.runAll]⟩
  | @data s text page _ _ _ induction =>
      obtain ⟨statements, nested, ran⟩ := induction (.data s :: done)
      refine ⟨.data s :: statements, by rw [nestFrom, nested]; simp, fun env => ?_⟩
      rw [Statement.runAll, Statement.run]
      simp [ran env]
  | @literal s text page _ induction =>
      obtain ⟨statements, nested, ran⟩ := induction (.output (.text s) :: done)
      refine ⟨.output (.text s) :: statements, ?_, fun env => ?_⟩
      · have sound : checked .output (.text s) = .ok () := rfl
        rw [nestFrom, sound, ok_bind, nested]
        simp
      · have printed : Statement.run env (.output (.text s)) = .ok (s, env) := by
          rw [Statement.run, Term.eval]
          rfl
        rw [Statement.runAll, printed, ok_bind]
        simp only [ran env, ok_bind]

/-- What a page of texts prints is rendered. -/
theorem render (prints : Prints page text) {functions : List Function} {content : List Char}
    (compiled : toPage functions content = .ok page) (p : Project.Parameters) :
    Template.render functions p content = .ok text := by
  obtain ⟨statements, nested, ran⟩ := prints.runs []
  rw [Template.render, compiled]
  simp only [Page.nest, nested, List.reverse_nil, List.nil_append, ran]

theorem return_not_mem (prints : Prints page text) : '\r' ∉ page.source := by
  induction prints with
  | nothing => simp [Page.source]
  | @data s text page _ copied _ induction =>
      rw [Page.source_cons, List.mem_append, not_or]
      exact ⟨(needsLiteral_eq_false_iff.mp copied).2.2.1, induction⟩
  | @literal s text page _ induction =>
      rw [Page.source_cons, List.mem_append, not_or]
      refine ⟨?_, induction⟩
      simp [Tag.source, Term.source, return_not_mem_quoted]

/-- The source of a page of texts shows them. -/
theorem shows (prints : Prints page text) : Shows (unified page.source) text := by
  rw [unified_eq_self prints.return_not_mem]
  induction prints with
  | nothing => exact .nothing
  | data unopened copied _ induction =>
      rw [Page.source_cons]
      exact induction.behind_data unopened copied
  | @literal s text page _ induction =>
      have isMark := Text.quoteMark_cases s
      have body := literalBody?_quoted isMark s (' ' :: '\x7d' :: '\x7d' :: page.source)
      have shown := Shows.literal isMark body (Text.unescapeFrom_flatMap_escapeChar isMark s 0) induction
      simpa [Page.source_cons, Tag.source, Term.source, Text.quoted] using shown

end Prints

end Stencil.Template
