import Mathlib
import Stencil.Proofs.Template.Literal
import Stencil.Proofs.Template.Reading
import Stencil.Proofs.Template.Verbs
import Stencil.Template.Compile
import Stencil.Template.Function

/-!
# Rows of tokens

A body is a row of tokens.  No blanks have to stand between two of them: where the second one cannot go on with the
first, the first one ends, and both are operands of their own.  So the operands of a command are separated exactly if
no two of them stand side by side of which the second cannot go on with the first.
-/

namespace Stencil.Template

variable {s rest : List Char} {token : Token}

/-! ## Characters of tokens -/

private theorem ascii_facts : ∀ n < 128, isWordPart (Char.ofNat n) = true →
    Text.isBlank (Char.ofNat n) = false ∧ Char.ofNat n ∉ ['"', rawMark, '-', '.', '$'] := by
  decide

private theorem start_facts : ∀ n < 128, isWordStart (Char.ofNat n) = true →
    Text.isDecimalDigit (Char.ofNat n) = false := by
  decide

theorem toNat_lt_of_isWordPart {c : Char} (part : isWordPart c = true) : c.toNat < 128 := by
  simp only [isWordPart, Char.isAlphanum, Char.isAlpha, Char.isUpper, Char.isLower, Char.isDigit, Bool.or_eq_true,
    Bool.and_eq_true, decide_eq_true_eq, ge_iff_le, UInt32.le_iff_toNat_le] at part
  rcases part with (((⟨-, le⟩ | ⟨-, le⟩) | ⟨-, le⟩) | rfl)
  · exact Nat.lt_of_le_of_lt le (by decide)
  · exact Nat.lt_of_le_of_lt le (by decide)
  · exact Nat.lt_of_le_of_lt le (by decide)
  · decide

theorem isWordPart_of_isWordStart {c : Char} (start : isWordStart c = true) : isWordPart c = true := by
  simp only [isWordStart, isWordPart, Char.isAlphanum, Bool.or_eq_true] at start ⊢
  exact start.imp .inl id

theorem facts_of_isWordPart {c : Char} (part : isWordPart c = true) :
    Text.isBlank c = false ∧ c ∉ ['"', rawMark, '-', '.', '$'] := by
  have facts := ascii_facts c.toNat (toNat_lt_of_isWordPart part)
  rw [Char.ofNat_toNat] at facts
  exact facts part

theorem isDecimalDigit_of_isWordStart {c : Char} (start : isWordStart c = true) : Text.isDecimalDigit c = false := by
  have facts := start_facts c.toNat (toNat_lt_of_isWordPart (isWordPart_of_isWordStart start))
  rw [Char.ofNat_toNat] at facts
  exact facts start

private theorem zeros_solid : (Text.decimalZeros.all fun first => (List.range 10).all fun n =>
    !Text.isBlank (Char.ofNat (first + n))) = true := by
  decide +kernel

theorem isBlank_of_isDecimalDigit {c : Char} (digit : Text.isDecimalDigit c = true) : Text.isBlank c = false := by
  obtain ⟨first, found⟩ : ∃ first,
      Text.decimalZeros.find? (fun first => first ≤ c.toNat ∧ c.toNat < first + 10) = some first := by
    simpa [Text.isDecimalDigit, Text.decimalValue?, Option.isSome_iff_exists] using digit
  have range := List.find?_some found
  simp only [decide_eq_true_eq] at range
  have solid := List.all_eq_true.mp (List.all_eq_true.mp zeros_solid first (List.mem_of_find?_eq_some found))
    (c.toNat - first) (List.mem_range.mpr (by omega))
  rw [Nat.add_sub_cancel' range.1, Char.ofNat_toNat] at solid
  simpa using solid

/-! ## Tokens as they are written -/

/-- Whether a text is a word. -/
def IsName (name : List Char) : Prop :=
  ∃ c rest, name = c :: rest ∧ isWordStart c = true ∧ ∀ d ∈ rest, isWordPart d = true

/-- Whether a point and a name stand at the head of a text. -/
def nameAhead : List Char → Bool
  | '.' :: c :: _ => isWordStart c
  | _ => false

namespace Token

/-- Whether a token can be written. -/
inductive IsProper : Token → Prop
  /-- A literal on one line. -/
  | quoted {inner : List Char} (inside : IsInner inner) : IsProper (.quoted ('"' :: inner ++ ['"']))
  /-- A literal without back marks. -/
  | raw {s : List Char} (free : rawMark ∉ s) : IsProper (.raw s)
  /-- Digits. -/
  | numeral {digits : List Char} (some : digits ≠ []) (decimal : ∀ c ∈ digits, Text.isDecimalDigit c = true) :
    IsProper (.numeral digits)
  /-- Digits behind a minus sign. -/
  | signed {digits : List Char} (some : digits ≠ []) (decimal : ∀ c ∈ digits, Text.isDecimalDigit c = true) :
    IsProper (.numeral ('-' :: digits))
  /-- Names behind points. -/
  | field {names : List (List Char)} (some : names ≠ []) (named : ∀ name ∈ names, IsName name) :
    IsProper (.field names)
  /-- A point. -/
  | dot : IsProper .dot
  /-- A dollar sign and what a word can go on with. -/
  | dollar {name : List Char} (parts : ∀ c ∈ name, isWordPart c = true) : IsProper (.variable name)
  /-- A word. -/
  | word {name : List Char} (named : IsName name) : IsProper (.word name)
  /-- An opening parenthesis. -/
  | opening : IsProper .opening
  /-- A closing parenthesis. -/
  | closing : IsProper .closing
  /-- A bar. -/
  | bar : IsProper .bar

/-- Whether a token goes on with what stands behind it. -/
def goesOn (token : Token) (s : List Char) : Bool :=
  match token with
  | .numeral _ => s.head?.any Text.isDecimalDigit
  | .field _ => s.head?.any isWordPart || nameAhead s
  | .dot => s.head?.any isWordStart
  | .variable _ => s.head?.any isWordPart
  | .word _ => s.head?.any isWordPart
  | _ => false

/-- Whether a token is an operand or names a function. -/
def isOperand : Token → Bool
  | .opening | .closing | .bar => false
  | _ => true

/-- The first character of a token is no blank. -/
theorem IsProper.exists_head (proper : token.IsProper) :
    ∃ c more, token.written = c :: more ∧ Text.isBlank c = false := by
  cases proper with
  | quoted => exact ⟨_, _, rfl, by decide⟩
  | raw => exact ⟨_, _, rfl, by decide⟩
  | @numeral digits some decimal =>
      cases digits with
      | nil => exact absurd rfl some
      | cons c digits => exact ⟨c, digits, rfl, isBlank_of_isDecimalDigit (decimal c List.mem_cons_self)⟩
  | signed => exact ⟨_, _, rfl, by decide⟩
  | @field names some named =>
      cases names with
      | nil => exact absurd rfl some
      | cons name names => exact ⟨_, _, rfl, by decide⟩
  | dot => exact ⟨_, _, rfl, by decide⟩
  | dollar => exact ⟨_, _, rfl, by decide⟩
  | word named =>
      obtain ⟨c, more, rfl, start, -⟩ := named
      exact ⟨c, more, rfl, (facts_of_isWordPart (isWordPart_of_isWordStart start)).1⟩
  | opening => exact ⟨_, _, rfl, by decide⟩
  | closing => exact ⟨_, _, rfl, by decide⟩
  | bar => exact ⟨_, _, rfl, by decide⟩

end Token

/-! ## Reading a token -/

theorem readQuoted?_eq_some {literal : List Char} (read : readQuoted? s = some (literal, rest)) :
    ∃ inner, IsInner inner ∧ literal = inner ++ ['"'] ∧ s = inner ++ '"' :: rest := by
  fun_induction readQuoted? s generalizing literal with
  | case1 => cases read
  | case2 more =>
      cases read
      exact ⟨[], .nothing, rfl, rfl⟩
  | case3 => cases read
  | case4 c more sameLine induction =>
      obtain ⟨⟨literal', rest'⟩, readRest, same⟩ := Option.map_eq_some_iff.mp read
      cases same
      obtain ⟨inner, inside, rfl, rfl⟩ := induction readRest
      exact ⟨'\\' :: c :: inner, .pair sameLine inside, rfl, rfl⟩
  | case5 => cases read
  | case6 c more noMark _ other induction =>
      obtain ⟨⟨literal', rest'⟩, readRest, same⟩ := Option.map_eq_some_iff.mp read
      cases same
      obtain ⟨inner, inside, rfl, rfl⟩ := induction readRest
      rw [not_or] at other
      refine ⟨c :: inner, .plain ?_ inside, rfl, rfl⟩
      simp only [List.mem_cons, List.not_mem_nil, or_false, not_or]
      exact ⟨noMark, other.2, other.1⟩

theorem readRaw?_eq_some {literal : List Char} (read : readRaw? s = some (literal, rest)) :
    rawMark ∉ literal ∧ s = literal ++ rawMark :: rest := by
  induction s generalizing literal with
  | nil => cases read
  | cons c s induction =>
      rw [readRaw?] at read
      split_ifs at read with mark
      · cases read
        exact ⟨by simp, by rw [mark]; rfl⟩
      · obtain ⟨⟨literal', rest'⟩, readRest, same⟩ := Option.map_eq_some_iff.mp read
        cases same
        obtain ⟨free, rfl⟩ := induction readRest
        exact ⟨by simpa using ⟨Ne.symm mark, free⟩, rfl⟩

/-- What is dropped behind a text of one kind goes on with no character of that kind. -/
theorem head?_dropWhile_any (test : Char → Bool) (s : List Char) : (s.dropWhile test).head?.any test = false := by
  have kept := List.head?_dropWhile_not test s
  cases first : (s.dropWhile test).head? with
  | none => rfl
  | some c => simpa [first] using kept

theorem readNames_of_not_ahead {fuel : Nat} (apart : nameAhead s = false) : readNames fuel s = ([], s) := by
  cases fuel with
  | zero => rfl
  | succ fuel =>
      by_cases shape : ∃ c more, s = '.' :: c :: more
      · obtain ⟨c, more, rfl⟩ := shape
        have noStart : ¬isWordStart c = true := Bool.not_eq_true _ ▸ apart
        rw [readNames, if_neg noStart]
      · rw [readNames]
        rintro c more rfl
        exact shape ⟨c, more, rfl⟩

/-- Names are read as long as there are some. -/
theorem readNames_spec {fuel : Nat} (enough : s.length ≤ fuel) {names : List (List Char)} {after : List Char}
    (read : readNames fuel s = (names, after)) :
    (∀ name ∈ names, IsName name) ∧ s = names.flatMap ('.' :: ·) ++ after ∧ nameAhead after = false ∧
      (names ≠ [] → after.head?.any isWordPart = false) := by
  induction fuel generalizing s names after with
  | zero =>
      rw [List.eq_nil_of_length_eq_zero (Nat.le_zero.mp enough)] at read ⊢
      cases read
      exact ⟨List.forall_mem_nil _, rfl, rfl, nofun⟩
  | succ fuel induction =>
      by_cases ahead : nameAhead s = true
      case neg =>
        rw [Bool.not_eq_true] at ahead
        rw [readNames_of_not_ahead ahead] at read
        cases read
        exact ⟨List.forall_mem_nil _, rfl, ahead, nofun⟩
      case pos =>
        obtain ⟨c, more, rfl, start⟩ : ∃ c more, s = '.' :: c :: more ∧ isWordStart c = true := by
          unfold nameAhead at ahead
          split at ahead
          · exact ⟨_, _, rfl, ahead⟩
          · cases ahead
        have shorter : (more.dropWhile isWordPart).length ≤ fuel := by
          have dropped := (List.dropWhile_sublist isWordPart (l := more)).length_le
          simp only [List.length_cons] at enough
          omega
        rcases later : readNames fuel (more.dropWhile isWordPart) with ⟨names', after'⟩
        obtain ⟨named, whole, apart, ends⟩ := induction shorter later
        rw [readNames, if_pos start, later] at read
        cases read
        have isName : IsName (c :: more.takeWhile isWordPart) :=
          ⟨c, _, rfl, start, fun d known => List.mem_takeWhile_imp known⟩
        refine ⟨List.forall_mem_cons.mpr ⟨isName, named⟩, ?_, apart, fun _ => ?_⟩
        · rw [List.flatMap_cons, List.append_assoc, ← whole]
          simp [List.takeWhile_append_dropWhile]
        · by_cases none : names' = []
          · subst none
            rw [List.flatMap_nil, List.nil_append] at whole
            rw [← whole]
            exact head?_dropWhile_any isWordPart more
          · exact ends none

theorem stops_of_any {test : Char → Bool} (ends : rest.head?.any test = false) (c : Char)
    (first : rest.head? = some c) : test c = false := by
  rw [first] at ends
  exact ends

theorem readNames_append {fuel : Nat} {names : List (List Char)} (named : ∀ name ∈ names, IsName name)
    (enough : (names.flatMap ('.' :: ·) ++ rest).length ≤ fuel) (apart : nameAhead rest = false)
    (ends : names ≠ [] → rest.head?.any isWordPart = false) :
    readNames fuel (names.flatMap ('.' :: ·) ++ rest) = (names, rest) := by
  induction names generalizing fuel with
  | nil => exact readNames_of_not_ahead apart
  | cons name names induction =>
      obtain ⟨⟨c, more, rfl, start, parts⟩, namedRest⟩ := List.forall_mem_cons.mp named
      have endsHere : (names.flatMap ('.' :: ·) ++ rest).head?.any isWordPart = false := by
        cases names with
        | nil => exact ends (List.cons_ne_nil _ _)
        | cons next names => rfl
      obtain ⟨taken, dropped⟩ := span_append parts (stops_of_any endsHere)
      have whole : ((c :: more) :: names).flatMap ('.' :: ·) ++ rest =
          '.' :: c :: (more ++ (names.flatMap ('.' :: ·) ++ rest)) := by simp
      rw [whole] at enough ⊢
      cases fuel with
      | zero => cases enough
      | succ fuel =>
          have shorter : (names.flatMap ('.' :: ·) ++ rest).length ≤ fuel := by
            simp only [List.length_cons, List.length_append] at enough ⊢
            omega
          rw [readNames, if_pos start, taken, dropped, induction namedRest shorter fun _ => ends (List.cons_ne_nil _ _)]

/-- The token at the head of a text is written there, and it does not go on with what stands behind it. -/
theorem readToken?_spec (read : readToken? s = some (token, rest)) :
    token.IsProper ∧ s = token.written ++ rest ∧ token.goesOn rest = false := by
  cases s with
  | nil => cases read
  | cons c s =>
      rw [readToken?] at read
      split_ifs at read with mark raw digit minus behind point dollar start paren closed bar
      · obtain ⟨⟨literal, rest'⟩, readRest, same⟩ := Option.map_eq_some_iff.mp read
        cases same
        obtain ⟨inner, inside, rfl, rfl⟩ := readQuoted?_eq_some readRest
        exact ⟨.quoted inside, by simp [mark, Token.written], rfl⟩
      · obtain ⟨⟨literal, rest'⟩, readRest, same⟩ := Option.map_eq_some_iff.mp read
        cases same
        obtain ⟨free, rfl⟩ := readRaw?_eq_some readRest
        exact ⟨.raw free, by simp [raw, Token.written], rfl⟩
      · cases read
        refine ⟨.numeral ?_ fun d known => List.mem_takeWhile_imp known, List.takeWhile_append_dropWhile.symm,
          head?_dropWhile_any _ _⟩
        rw [List.takeWhile_cons_of_pos digit]
        exact List.cons_ne_nil _ _
      · cases read
        refine ⟨.signed ?_ fun d known => List.mem_takeWhile_imp known, ?_, head?_dropWhile_any _ _⟩
        · cases s with
          | nil => cases behind
          | cons d s =>
              have digits : Text.isDecimalDigit d = true := behind
              rw [List.takeWhile_cons_of_pos digits]
              exact List.cons_ne_nil _ _
        · rw [minus, Token.written, List.cons_append, List.takeWhile_append_dropWhile]
      · rcases named : readNames (c :: s).length (c :: s) with ⟨names, after⟩
        obtain ⟨areNames, whole, apart, ends⟩ := readNames_spec (Nat.le_refl _) named
        rw [named] at read
        cases names with
        | nil =>
            cases read
            rw [List.flatMap_nil, List.nil_append, point] at whole
            refine ⟨.dot, by rw [point]; rfl, ?_⟩
            rw [← whole] at apart
            cases rest with
            | nil => rfl
            | cons d rest => exact apart
        | cons name names =>
            cases read
            refine ⟨.field (List.cons_ne_nil _ _) areNames, whole, ?_⟩
            rw [Token.goesOn, ends (List.cons_ne_nil _ _), apart]
            rfl
      · cases read
        refine ⟨.dollar fun d known => List.mem_takeWhile_imp known, ?_, head?_dropWhile_any _ _⟩
        rw [dollar, Token.written, List.cons_append, List.takeWhile_append_dropWhile]
      · cases read
        refine ⟨.word ⟨c, _, rfl, start, fun d known => List.mem_takeWhile_imp known⟩, ?_, head?_dropWhile_any _ _⟩
        rw [Token.written, List.cons_append, List.takeWhile_append_dropWhile]
      · cases read
        exact ⟨.opening, by rw [paren]; rfl, rfl⟩
      · cases read
        exact ⟨.closing, by rw [closed]; rfl, rfl⟩
      · cases read
        exact ⟨.bar, by rw [bar]; rfl, rfl⟩

theorem readToken?_written (proper : token.IsProper) (apart : token.goesOn rest = false) :
    readToken? (token.written ++ rest) = some (token, rest) := by
  cases proper with
  | @quoted inner inside =>
      rw [Token.written, List.cons_append, List.cons_append, List.append_assoc, List.singleton_append, readToken?,
        if_pos rfl, inside.readQuoted?]
      rfl
  | @raw s free =>
      rw [Token.written, List.cons_append, List.cons_append, List.append_assoc, List.singleton_append, readToken?,
        if_neg (by decide), if_pos rfl, readRaw?_append free]
      rfl
  | @numeral digits some decimal =>
      obtain ⟨taken, dropped⟩ := span_append decimal (stops_of_any apart)
      cases digits with
      | nil => exact absurd rfl some
      | cons c digits =>
          have digit := decimal c List.mem_cons_self
          have noMark : c ≠ '"' := ne_of_digit digit (by decide)
          have noRaw : c ≠ rawMark := ne_of_digit digit (by decide)
          rw [Token.written, List.cons_append, readToken?, if_neg noMark, if_neg noRaw, if_pos digit,
            ← List.cons_append, taken, dropped]
  | @signed digits some decimal =>
      obtain ⟨taken, dropped⟩ := span_append decimal (stops_of_any apart)
      have noDigit : ¬Text.isDecimalDigit '-' = true := by decide
      have behind : ((digits ++ rest).head?.map Text.isDecimalDigit).getD false = true := by
        cases digits with
        | nil => exact absurd rfl some
        | cons c digits => exact decimal c List.mem_cons_self
      rw [Token.written, List.cons_append, readToken?, if_neg (by decide), if_neg (by decide), if_neg noDigit,
        if_pos rfl, if_pos behind, taken, dropped]
  | @field names some named =>
      rw [Token.goesOn, Bool.or_eq_false_iff] at apart
      have read := readNames_append named (Nat.le_refl _) apart.2 fun _ => apart.1
      have noDigit : ¬Text.isDecimalDigit '.' = true := by decide
      cases names with
      | nil => exact absurd rfl some
      | cons name names =>
          have whole : (name :: names).flatMap ('.' :: ·) ++ rest =
              '.' :: (name ++ (names.flatMap ('.' :: ·) ++ rest)) := by simp
          rw [Token.written, whole, readToken?, if_neg (by decide), if_neg (by decide), if_neg noDigit,
            if_neg (by decide), if_pos rfl, ← whole, read]
  | dot =>
      have notAhead : nameAhead ('.' :: rest) = false := by
        cases rest with
        | nil => rfl
        | cons c rest => exact apart
      have noDigit : ¬Text.isDecimalDigit '.' = true := by decide
      rw [Token.written, List.singleton_append, readToken?, if_neg (by decide), if_neg (by decide), if_neg noDigit,
        if_neg (by decide), if_pos rfl, readNames_of_not_ahead notAhead]
  | @dollar name parts =>
      obtain ⟨taken, dropped⟩ := span_append parts (stops_of_any apart)
      have noDigit : ¬Text.isDecimalDigit '$' = true := by decide
      rw [Token.written, List.cons_append, readToken?, if_neg (by decide), if_neg (by decide), if_neg noDigit,
        if_neg (by decide), if_neg (by decide), if_pos rfl, taken, dropped]
  | @word name named =>
      obtain ⟨c, more, rfl, start, parts⟩ := named
      obtain ⟨taken, dropped⟩ := span_append parts (stops_of_any apart)
      have other := (facts_of_isWordPart (isWordPart_of_isWordStart start)).2
      simp only [List.mem_cons, List.not_mem_nil, or_false, not_or] at other
      obtain ⟨noMark, noRaw, noMinus, noPoint, noDollar⟩ := other
      have noDigit : ¬Text.isDecimalDigit c = true := by simp [isDecimalDigit_of_isWordStart start]
      rw [Token.written, List.cons_append, readToken?, if_neg noMark, if_neg noRaw, if_neg noDigit, if_neg noMinus,
        if_neg noPoint, if_neg noDollar, if_pos start, taken, dropped]
  | opening => rfl
  | closing => rfl
  | bar => rfl

/-! ## Rows -/

/-- Whether a text is a row of tokens with blanks before each and behind the last one, of which none goes on with what
stands behind it. -/
def IsRow (s : List Char) : List (List Char × Token) → Prop
  | [] => ∀ c ∈ s, Text.isBlank c = true
  | (gap, token) :: parts => (∀ c ∈ gap, Text.isBlank c = true) ∧ token.IsProper ∧
      ∃ rest, s = gap ++ (token.written ++ rest) ∧ token.goesOn rest = false ∧ IsRow rest parts

/-- The tokens of a row. -/
def rowTokens (parts : List (List Char × Token)) : List Token :=
  parts.map Prod.snd

/-- Whether blanks stand between any two operands of a row that follow one another. -/
def IsSeparated (parts : List (List Char × Token)) : Prop :=
  parts.IsChain fun before part => before.2.isOperand = true → part.2.isOperand = true → part.1 ≠ []

theorem trimStart_gap {gap : List Char} (blank : ∀ c ∈ gap, Text.isBlank c = true) (proper : token.IsProper)
    (rest : List Char) : Text.trimStart (gap ++ (token.written ++ rest)) = token.written ++ rest := by
  obtain ⟨c, more, written, solid⟩ := proper.exists_head
  rw [Text.trimStart, Text.trimStartWith, List.dropWhile_append_of_pos blank, written, List.cons_append,
    List.dropWhile_cons_of_neg (by simp [solid])]

/-- Only blanks make a row without tokens. -/
theorem trimStart_eq_nil_of_isRow {parts : List (List Char × Token)} (row : IsRow s parts) :
    Text.trimStart s = [] ↔ parts = [] := by
  cases parts with
  | nil => exact iff_of_true (List.dropWhile_eq_nil_iff.mpr row) rfl
  | cons part parts =>
      obtain ⟨blank, proper, rest, rfl, -, -⟩ := row
      obtain ⟨c, more, written, -⟩ := proper.exists_head
      rw [trimStart_gap blank proper rest, written]
      exact iff_of_false (List.cons_ne_nil _ _) (List.cons_ne_nil _ _)

/-- A text has one row at most. -/
theorem IsRow.unique {parts parts' : List (List Char × Token)} (row : IsRow s parts) (row' : IsRow s parts') :
    parts = parts' := by
  induction parts generalizing s parts' with
  | nil => exact ((trimStart_eq_nil_of_isRow row').mp ((trimStart_eq_nil_of_isRow row).mpr rfl)).symm
  | cons part parts induction =>
      cases parts' with
      | nil => cases (trimStart_eq_nil_of_isRow row).mp ((trimStart_eq_nil_of_isRow row').mpr rfl)
      | cons part' parts' =>
          obtain ⟨gap, token⟩ := part
          obtain ⟨gap', token'⟩ := part'
          obtain ⟨blank, proper, rest, whole, apart, later⟩ := row
          obtain ⟨blank', proper', rest', whole', apart', later'⟩ := row'
          -- The first token begins at the first character that is no blank, and only one token can be read there.
          have start : token.written ++ rest = token'.written ++ rest' := by
            rw [← trimStart_gap blank proper rest, ← whole, whole', trimStart_gap blank' proper' rest']
          have read := readToken?_written proper apart
          rw [start, readToken?_written proper' apart'] at read
          cases read
          rw [whole] at whole'
          rw [List.append_cancel_right whole', induction later later']

/-- The tokens of a text are those of its row. -/
theorem tokensOf_eq_ok_iff {fuel : Nat} (enough : s.length < fuel) {found : List Token} :
    tokensOf fuel s = .ok found ↔ ∃ parts, IsRow s parts ∧ rowTokens parts = found := by
  induction fuel generalizing s found with
  | zero => exact absurd enough (Nat.not_lt_zero _)
  | succ fuel induction =>
      have shorter {gap rest : List Char} {token : Token} (proper : token.IsProper)
          (whole : s = gap ++ (token.written ++ rest)) : rest.length < fuel := by
        obtain ⟨c, more, written, -⟩ := proper.exists_head
        rw [whole, written] at enough
        simp only [List.length_append, List.length_cons] at enough
        omega
      have split : s = s.takeWhile Text.isBlank ++ Text.trimStart s := List.takeWhile_append_dropWhile.symm
      have gap (c : Char) (known : c ∈ s.takeWhile Text.isBlank) := List.mem_takeWhile_imp known
      rw [tokensOf]
      constructor
      · intro tokenized
        cases start : Text.trimStart s with
        | nil =>
            simp only [start] at tokenized
            cases tokenized
            exact ⟨[], List.dropWhile_eq_nil_iff.mp start, rfl⟩
        | cons c more =>
            simp only [start] at tokenized
            split at tokenized
            · cases tokenized
            · rename_i token rest read
              obtain ⟨found', later, rfl⟩ := map_eq_ok_iff.mp tokenized
              obtain ⟨proper, whole, apart⟩ := readToken?_spec read
              rw [start, whole] at split
              obtain ⟨parts, row, rfl⟩ := (induction (shorter proper split)).mp later
              exact ⟨(s.takeWhile Text.isBlank, token) :: parts, ⟨gap, proper, rest, split, apart, row⟩, rfl⟩
      · rintro ⟨parts, row, rfl⟩
        cases parts with
        | nil => simp only [(trimStart_eq_nil_of_isRow row).mpr rfl, rowTokens, List.map_nil]
        | cons part parts =>
            obtain ⟨gap, token⟩ := part
            obtain ⟨blank, proper, rest, rfl, apart, later⟩ := row
            obtain ⟨c, more, written, -⟩ := proper.exists_head
            have read := readToken?_written proper apart
            have tokenized := (induction (shorter proper rfl)).mpr ⟨parts, later, rfl⟩
            rw [trimStart_gap blank proper rest]
            rw [written, List.cons_append] at read ⊢
            simp only [read, tokenized]
            rfl

/-- A body has tokens exactly if it is a row, and then they are those of the row. -/
theorem tokens_eq_ok_iff {found : List Token} :
    tokens s = .ok found ↔ ∃ parts, IsRow s parts ∧ rowTokens parts = found :=
  tokensOf_eq_ok_iff (Nat.lt_succ_self _)

/-! ## Operands side by side -/

/-- Whether two tokens that stand side by side are not two operands: one of them is none, or the first one goes on with
the second one. -/
def KeepsAway (token next : Token) : Prop :=
  token.isOperand = true → next.isOperand = true → token.goesOn next.written = true

theorem nameAhead_cons (c : Char) (s : List Char) :
    nameAhead (c :: s) = (decide (c = '.') && s.head?.any isWordStart) := by
  unfold nameAhead
  split
  · rename_i same
    cases same
    rfl
  · rename_i other
    cases s with
    | nil => simp
    | cons d s =>
        have apart : c ≠ '.' := fun point => other d s (by rw [point])
        simp [apart]

theorem nameAhead_append (ahead : nameAhead s = true) (more : List Char) : nameAhead (s ++ more) = true := by
  unfold nameAhead at ahead
  split at ahead
  · exact ahead
  · cases ahead

theorem goesOn_append (goesOn : token.goesOn s = true) (more : List Char) : token.goesOn (s ++ more) = true := by
  have head {test : Char → Bool} (first : s.head?.any test = true) : (s ++ more).head?.any test = true := by
    cases s with
    | nil => cases first
    | cons c s => exact first
  cases token with
  | numeral => exact head goesOn
  | dot => exact head goesOn
  | «variable» => exact head goesOn
  | word => exact head goesOn
  | field =>
      rw [Token.goesOn, Bool.or_eq_true] at goesOn ⊢
      exact goesOn.imp head fun ahead => nameAhead_append ahead more
  | _ => cases goesOn

/-- Whether nothing but a blank can be the first character of a text. -/
def BeginsBlank (s : List Char) : Prop :=
  ∀ c, s.head? = some c → c = ' '

theorem BeginsBlank.any_eq_false (blank : BeginsBlank s) {test : Char → Bool} (fails : test ' ' = false) :
    s.head?.any test = false := by
  cases s with
  | nil => rfl
  | cons c s =>
      rw [blank c rfl]
      exact fails

/-- Whether a token goes on with a text does not depend on what stands behind a blank there. -/
theorem goesOn_append_blank (nonempty : s ≠ []) (blank : BeginsBlank rest) (token : Token) :
    token.goesOn (s ++ rest) = token.goesOn s := by
  cases s with
  | nil => exact absurd rfl nonempty
  | cons c s =>
      have ahead : nameAhead (c :: s ++ rest) = nameAhead (c :: s) := by
        rw [List.cons_append, nameAhead_cons, nameAhead_cons]
        cases s with
        | nil => rw [List.nil_append, blank.any_eq_false (by decide)]; rfl
        | cons d s => rfl
      cases token with
      | field => rw [Token.goesOn, Token.goesOn, ahead]; rfl
      | _ => rfl

theorem goesOn_of_blank (blank : BeginsBlank s) (token : Token) : token.goesOn s = false := by
  have ahead : nameAhead s = false := by
    unfold nameAhead
    split
    · cases blank _ rfl
    · rfl
  cases token with
  | numeral => exact blank.any_eq_false (by decide)
  | dot => exact blank.any_eq_false (by decide)
  | «variable» => exact blank.any_eq_false (by decide)
  | word => exact blank.any_eq_false (by decide)
  | field =>
      rw [Token.goesOn, ahead, blank.any_eq_false (by decide)]
      rfl
  | _ => rfl

/-- Operands that keep away from one another are separated. -/
theorem IsRow.isSeparated {parts : List (List Char × Token)} (row : IsRow s parts)
    (apart : (rowTokens parts).IsChain KeepsAway) : IsSeparated parts := by
  induction parts generalizing s with
  | nil => exact .nil
  | cons part parts induction =>
      obtain ⟨gap, token⟩ := part
      obtain ⟨-, -, rest, -, ends, later⟩ := row
      cases parts with
      | nil => exact .singleton _
      | cons next parts =>
          obtain ⟨gap', token'⟩ := next
          obtain ⟨away, apartRest⟩ := List.isChain_cons_cons.mp apart
          refine List.isChain_cons_cons.mpr ⟨?_, induction later apartRest⟩
          rintro operand operand' rfl
          obtain ⟨-, -, rest', rfl, -, -⟩ := later
          have goesOn := goesOn_append (away operand operand') rest'
          rw [List.nil_append, goesOn] at ends
          cases ends

/-- Tokens make a row with a blank before each of them. -/
theorem exists_spaced_row {found : List Token} (proper : ∀ token ∈ found, token.IsProper) :
    ∃ s parts, IsRow s parts ∧ rowTokens parts = found ∧ BeginsBlank s := by
  induction found with
  | nil => exact ⟨[], [], List.forall_mem_nil _, rfl, nofun⟩
  | cons token found induction =>
      obtain ⟨properFirst, properRest⟩ := List.forall_mem_cons.mp proper
      obtain ⟨s, parts, row, rfl, blank⟩ := induction properRest
      refine ⟨[' '] ++ (token.written ++ s), ([' '], token) :: parts,
        ⟨?_, properFirst, s, rfl, goesOn_of_blank blank token, row⟩, rfl, ?_⟩
      · exact List.forall_mem_singleton.mpr (by decide)
      · rintro c ⟨⟩
        rfl

/-- Tokens of which some operands do not keep away from one another make a row that is not separated. -/
theorem exists_touching_row {found : List Token} (proper : ∀ token ∈ found, token.IsProper)
    (touching : ¬found.IsChain KeepsAway) :
    ∃ s parts, IsRow s parts ∧ rowTokens parts = found ∧ BeginsBlank s ∧ ¬IsSeparated parts := by
  induction found with
  | nil => exact absurd .nil touching
  | cons token found induction =>
      obtain ⟨properFirst, properRest⟩ := List.forall_mem_cons.mp proper
      have space : ∀ c ∈ [' '], Text.isBlank c = true := List.forall_mem_singleton.mpr (by decide)
      have begins (s : List Char) : BeginsBlank ([' '] ++ s) := by
        rintro c ⟨⟩
        rfl
      by_cases later : found.IsChain KeepsAway
      case neg =>
        -- The operands that touch are behind the first token.
        obtain ⟨s, parts, row, rfl, blank, touches⟩ := induction properRest later
        refine ⟨_, ([' '], token) :: parts,
          ⟨space, properFirst, s, rfl, goesOn_of_blank blank token, row⟩, rfl, begins _, fun separated => ?_⟩
        exact touches separated.tail
      case pos =>
        cases found with
        | nil => exact absurd (.singleton _) touching
        | cons next found =>
            have touches : ¬KeepsAway token next := fun away => touching (List.isChain_cons_cons.mpr ⟨away, later⟩)
            simp only [KeepsAway, not_forall, Bool.not_eq_true] at touches
            obtain ⟨operand, operand', ends⟩ := touches
            obtain ⟨properNext, properLater⟩ := List.forall_mem_cons.mp properRest
            obtain ⟨s, parts, row, rfl, blank⟩ := exists_spaced_row properLater
            obtain ⟨c, more, written, -⟩ := properNext.exists_head
            have nonempty : next.written ≠ [] := by simp [written]
            have endsHere : token.goesOn (next.written ++ s) = false := by
              rw [goesOn_append_blank nonempty blank, ends]
            refine ⟨_, ([' '], token) :: ([], next) :: parts, ⟨space, properFirst, [] ++ (next.written ++ s), rfl,
              endsHere, List.forall_mem_nil _, properNext, s, rfl, goesOn_of_blank blank next, row⟩, rfl, begins _,
              fun separated => ?_⟩
            exact (List.isChain_cons_cons.mp separated).1 operand operand' rfl

theorem IsRow.isProper {parts : List (List Char × Token)} (row : IsRow s parts) :
    ∀ token ∈ rowTokens parts, token.IsProper := by
  induction parts generalizing s with
  | nil => exact List.forall_mem_nil _
  | cons part parts induction =>
      obtain ⟨-, proper, rest, -, -, later⟩ := row
      exact List.forall_mem_cons.mpr ⟨proper, induction later⟩

/-- A body that is accepted is a row in one way.  Whatever other row its tokens make is accepted as the same term, so
the operands of a command are separated in all of these bodies exactly if its operands keep away from one another. -/
theorem operands_separated_iff {state : CompileState} {isFunction : List Char → Bool} {body : List Char} {t : Term}
    (accepted : state.term isFunction body = .ok t) :
    ∃ parts, IsRow body parts ∧ (∀ parts', IsRow body parts' → parts' = parts) ∧
      tokens body = .ok (rowTokens parts) ∧
      (∀ body' parts', IsRow body' parts' → rowTokens parts' = rowTokens parts →
        state.term isFunction body' = .ok t) ∧
      ((∀ body' parts', IsRow body' parts' → rowTokens parts' = rowTokens parts → IsSeparated parts') ↔
        (rowTokens parts).IsChain KeepsAway) := by
  obtain ⟨found, tokenized⟩ : ∃ found, tokens body = .ok found := by
    cases tokenized : tokens body with
    | ok found => exact ⟨found, rfl⟩
    | error c =>
        rw [CompileState.term, Scope.read, tokenized] at accepted
        cases accepted
  obtain ⟨parts, row, rfl⟩ := tokens_eq_ok_iff.mp tokenized
  refine ⟨parts, row, fun parts' row' => row'.unique row, tokenized, fun body' parts' row' same => ?_, ?_, ?_⟩
  · have tokenized' := tokens_eq_ok_iff.mpr ⟨parts', row', same⟩
    rw [CompileState.term, Scope.read, tokenized] at accepted
    rw [CompileState.term, Scope.read, tokenized', accepted]
  · intro separated
    by_contra touching
    obtain ⟨body', parts', row', same, -, touches⟩ := exists_touching_row row.isProper touching
    exact touches (separated body' parts' row' same)
  · intro apart body' parts' row' same
    rw [← same] at apart
    exact row'.isSeparated apart

/-! ### Literals side by side -/

/-- A call with two literals. -/
def sideBySide : Term :=
  .call "print".toList [.text ['a'], .text ['b']]

private theorem term_sideBySide :
    ({} : CompileState).term (hasFunction builtins) "print\"a\"\"b\"".toList = .ok sideBySide := by
  cbv

/-- Without any blank a function and two literals are a call with two arguments, because none of the three goes on with
the next one. -/
theorem operands_side_by_side :
    ({} : CompileState).term (hasFunction builtins) "print\"a\"\"b\"".toList = .ok sideBySide ∧
      ∃ body parts, IsRow body parts ∧ ¬IsSeparated parts ∧
        ({} : CompileState).term (hasFunction builtins) body = .ok sideBySide := by
  refine ⟨term_sideBySide, ?_⟩
  obtain ⟨parts, row, -, tokenized, accepted, separated⟩ := operands_separated_iff term_sideBySide
  have found : tokens "print\"a\"\"b\"".toList =
      .ok [.word "print".toList, .quoted "\"a\"".toList, .quoted "\"b\"".toList] := by cbv
  have touching : ¬(rowTokens parts).IsChain KeepsAway := by
    rw [found] at tokenized
    rw [← Except.ok.inj tokenized]
    intro apart
    cases (List.isChain_cons_cons.mp (List.isChain_cons_cons.mp apart).2).1 rfl rfl
  rw [← separated] at touching
  push Not at touching
  obtain ⟨body, parts', row', same, touches⟩ := touching
  exact ⟨body, parts', row', touches, accepted body parts' row' same⟩

private theorem toPage_sideBySide :
    toPage builtins "\x7b\x7bprint \"a\"\"b\"\x7d\x7d".toList = .ok [.output sideBySide] := by
  rw [toPage]
  cbv

/-- A template that calls a function with two literals side by side is rendered with both of them. -/
theorem render_side_by_side :
    render builtins ⟨"demo", Project.noPort, by decide⟩ "\x7b\x7bprint \"a\"\"b\"\x7d\x7d".toList =
        .ok ['a', 'b'] ∧
      ∃ parts, IsRow "print \"a\"\"b\"".toList parts ∧ ¬IsSeparated parts := by
  have nested : Page.nest [.output sideBySide] = .ok [.output sideBySide] := by cbv
  have ran {env : Environment} (atHand : env.functions = builtins) :
      Statement.runAll env [.output sideBySide] = .ok (['a', 'b'], env) := by
    have member : anyArity "print" (fun args => .text (runTogether args)) ∈ builtins := by simp [builtins]
    have called : env.call "print".toList [.text ['a'], .text ['b']] = .ok (.text ['a', 'b']) :=
      Direct.call_eq_of_mem atHand member _
    have printed : (Value.text ['a', 'b']).printed = ['a', 'b'] := rfl
    simp only [sideBySide, Statement.runAll, Statement.run, Term.eval, Term.evalAll, ok_bind, Except.bind, called,
      Except.map, printed, List.append_nil]
  refine ⟨?_, ?_⟩
  · rw [render, toPage_sideBySide]
    simp only [nested, ran]
  · have spelled : "print \"a\"\"b\"".toList =
        ['p', 'r', 'i', 'n', 't'] ++ ([' '] ++ (['"', 'a', '"'] ++ ['"', 'b', '"'])) := by decide
    have named : IsName ['p', 'r', 'i', 'n', 't'] := 
      ⟨'p', ['r', 'i', 'n', 't'], rfl, by decide, List.all_eq_true.mp (by decide)⟩
    have literal {c : Char} (plain : c ∉ ['"', '\\', '\n']) : Token.IsProper (.quoted ['"', c, '"']) :=
      .quoted (.plain plain .nothing)
    rw [spelled]
    refine ⟨[([], .word ['p', 'r', 'i', 'n', 't']), ([' '], .quoted ['"', 'a', '"']), ([], .quoted ['"', 'b', '"'])],
      ⟨List.forall_mem_nil _, .word named, [' '] ++ (['"', 'a', '"'] ++ ['"', 'b', '"']), rfl, by decide, ?_⟩,
      fun separated => ?_⟩
    · exact ⟨List.forall_mem_singleton.mpr (by decide), literal (by simp), ['"', 'b', '"'], rfl, rfl,
        List.forall_mem_nil _, literal (by simp), [], rfl, rfl, List.forall_mem_nil _⟩
    · exact (List.isChain_cons_cons.mp (List.isChain_cons_cons.mp separated).2).1 rfl rfl rfl

end Stencil.Template
