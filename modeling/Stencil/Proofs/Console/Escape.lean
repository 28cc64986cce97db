import Mathlib
import Stencil.Console.Table

/-!
# Escaped text

Escaped text has no marks: each bracket that could begin one stands behind an odd number of backslashes.  So a message
behind a colored sign can always be printed, whatever its characters are.
-/

namespace Stencil.Console

/-! ## Marks -/

/-- Whether a text may stand in the brackets of a mark. -/
def IsInside (inside : List Char) : Prop :=
  ∃ c body, inside = c :: body ∧ beginsMark c = true ∧ ∀ d ∈ body, d ≠ ']' ∧ d ≠ '['

theorem markAtHead?_of_isInside {inside : List Char} (isInside : IsInside inside) (rest : List Char) :
    markAtHead? ('[' :: inside ++ ']' :: rest) = some inside := by
  obtain ⟨c, body, rfl, begins, free⟩ := isInside
  have body' : (body ++ ']' :: rest).takeWhile (fun d => d ≠ ']' && d ≠ '[') = body := by
    rw [List.takeWhile_append_of_pos (fun d known => by simp [free d known]), List.takeWhile_cons_of_neg (by simp),
      List.append_nil]
  rw [List.cons_append, List.cons_append, markAtHead?]
  simp only [body', begins, List.drop_left, List.head?_cons, Bool.true_and, decide_true, if_true]

theorem of_markAtHead?_eq_some {s inside : List Char} (found : markAtHead? s = some inside) :
    IsInside inside ∧ ∃ rest, s = '[' :: inside ++ ']' :: rest := by
  unfold markAtHead? at found
  split at found
  · rename_i c rest
    set body := rest.takeWhile fun d => d ≠ ']' && d ≠ '[' with cut
    have whole : body ++ rest.drop body.length = rest := by
      conv_rhs => rw [← List.takeWhile_append_dropWhile (p := fun d => d ≠ ']' && d ≠ '[') (l := rest)]
      rw [← cut]
      congr 1
      conv_lhs => rw [← List.takeWhile_append_dropWhile (p := fun d => d ≠ ']' && d ≠ '[') (l := rest), ← cut]
      exact List.drop_left
    dsimp only at found
    split at found
    · rename_i closed
      rw [Bool.and_eq_true, decide_eq_true_eq] at closed
      cases found
      obtain ⟨more, behind⟩ : ∃ more, rest.drop body.length = ']' :: more := by
        cases left : rest.drop body.length with
        | nil => simp [left] at closed
        | cons d more =>
            rw [left, List.head?_cons, Option.some.injEq] at closed
            exact ⟨more, by rw [closed.2]⟩
      refine ⟨⟨c, body, rfl, closed.1, fun d known => ?_⟩, more, ?_⟩
      · simpa using List.mem_takeWhile_imp known
      · rw [← whole, behind]
        rfl
    · cases found
  · cases found

/-- The text behind the backslashes at its head. -/
def behindSlashes (s : List Char) : List Char :=
  s.drop (s.takeWhile (· = '\\')).length

theorem behindSlashes_slash (s : List Char) : behindSlashes ('\\' :: s) = behindSlashes s := by
  simp [behindSlashes]

theorem behindSlashes_of_ne {c : Char} (other : c ≠ '\\') (s : List Char) : behindSlashes (c :: s) = c :: s := by
  simp [behindSlashes, other]

theorem takeWhile_slashes (count : Nat) (rest : List Char) :
    (List.replicate count '\\' ++ '[' :: rest).takeWhile (· = '\\') = List.replicate count '\\' := by
  rw [List.takeWhile_append_of_pos (by simp), List.takeWhile_cons_of_neg (by decide), List.append_nil]

theorem behindSlashes_replicate (count : Nat) : behindSlashes (List.replicate count '\\') = [] := by
  induction count with
  | zero => rfl
  | succ count induction => rw [List.replicate_succ, behindSlashes_slash, induction]

theorem eq_replicate_append_behindSlashes (s : List Char) :
    s = List.replicate (s.takeWhile (· = '\\')).length '\\' ++ behindSlashes s := by
  have slashes : s.takeWhile (· = '\\') = List.replicate (s.takeWhile (· = '\\')).length '\\' :=
    List.eq_replicate_of_mem fun c known => by simpa using List.mem_takeWhile_imp known
  rw [← slashes, behindSlashes]
  conv_lhs => rw [← List.take_append_drop (s.takeWhile (· = '\\')).length s]
  congr 1
  exact (List.prefix_iff_eq_take.mp (List.takeWhile_prefix _)).symm

/-- A text ends, or begins with a character behind which no mark stands, or with backslashes and what could be a
mark. -/
@[elab_as_elim]
theorem mark_induction {motive : List Char → Prop} (nil : motive [])
    (char : ∀ c rest, markAtHead? (behindSlashes (c :: rest)) = none → motive rest → motive (c :: rest))
    (bracket : ∀ slashes inside rest, IsInside inside → motive rest →
      motive (List.replicate slashes '\\' ++ '[' :: inside ++ ']' :: rest)) (s : List Char) : motive s := by
  induction h : s.length using Nat.strong_induction_on generalizing s with
  | h length induction =>
      cases s with
      | nil => exact nil
      | cons c rest =>
          cases found : markAtHead? (behindSlashes (c :: rest)) with
          | none => exact char c rest found (induction _ (by simp [← h]) rest rfl)
          | some inside =>
              obtain ⟨isInside, more, behind⟩ := of_markAtHead?_eq_some found
              have whole := eq_replicate_append_behindSlashes (c :: rest)
              rw [behind] at whole
              rw [whole, ← List.append_assoc]
              refine bracket _ inside more isInside (induction _ ?_ more rfl)
              rw [← h, whole]
              simp
              omega

/-! ## Text without marks -/

/-- Whether each bracket of a text that could begin a mark stands behind an odd number of backslashes. -/
inductive IsEscaped : List Char → Prop
  /-- Nothing is left. -/
  | nil : IsEscaped []
  /-- No mark stands behind the backslashes at the head. -/
  | char {c : Char} {rest : List Char} (unmarked : markAtHead? (behindSlashes (c :: rest)) = none)
    (behind : IsEscaped rest) : IsEscaped (c :: rest)
  /-- What could be a mark is escaped. -/
  | bracket (count : Nat) {inside rest : List Char} (isInside : IsInside inside) (behind : IsEscaped rest) :
    IsEscaped (List.replicate (2 * count + 1) '\\' ++ '[' :: inside ++ ']' :: rest)

theorem isEscaped_slashes (count : Nat) : IsEscaped (List.replicate count '\\') := by
  induction count with
  | zero => exact .nil
  | succ count induction =>
      have unmarked : markAtHead? (behindSlashes (List.replicate (count + 1) '\\')) = none := by
        rw [behindSlashes_replicate]
        rfl
      exact .char unmarked induction

/-- The pieces of a text in front of which no mark stands. -/
theorem piecesFrom_cons {c : Char} {rest : List Char} (unmarked : markAtHead? (behindSlashes (c :: rest)) = none)
    (position : Nat) (before : List Char) :
    piecesFrom position before (c :: rest) = piecesFrom (position + 1) (c :: before) rest := by
  rw [behindSlashes] at unmarked
  rw [piecesFrom]
  simp only [unmarked]

/-- What is read at the head of a text that begins with backslashes and a bracket that could begin a mark. -/
theorem head_bracket {inside : List Char} (isInside : IsInside inside) (slashes : Nat) (rest : List Char) :
    ∃ c tail, List.replicate slashes '\\' ++ '[' :: inside ++ ']' :: rest = c :: tail ∧
      (c :: tail).takeWhile (· = '\\') = List.replicate slashes '\\' ∧
      markAtHead? ((c :: tail).drop slashes) = some inside ∧
      tail.drop (slashes + inside.length + 2 - 1) = rest := by
  have length : (List.replicate slashes '\\' ++ '[' :: inside ++ [']']).length = slashes + inside.length + 2 := by
    simp
    omega
  have whole : List.replicate slashes '\\' ++ '[' :: inside ++ ']' :: rest =
      List.replicate slashes '\\' ++ '[' :: inside ++ [']'] ++ rest := by simp
  obtain ⟨c, tail, split⟩ : ∃ c tail, List.replicate slashes '\\' ++ '[' :: inside ++ ']' :: rest = c :: tail := by
    cases slashes <;> exact ⟨_, _, rfl⟩
  refine ⟨c, tail, split, ?_, ?_, ?_⟩
  · rw [← split, List.append_assoc, List.cons_append, takeWhile_slashes]
  · rw [← split, List.append_assoc, List.drop_left' (List.length_replicate ..)]
    exact markAtHead?_of_isInside isInside rest
  · rw [show slashes + inside.length + 2 - 1 = slashes + inside.length + 1 by omega,
      ← List.drop_succ_cons (a := c), ← split, whole, ← length, List.drop_left]

/-- The pieces of a text that begins with backslashes and a bracket that could begin a mark. -/
theorem piecesFrom_bracket {inside : List Char} (isInside : IsInside inside) (slashes position : Nat)
    (before rest : List Char) :
    piecesFrom position before (List.replicate slashes '\\' ++ '[' :: inside ++ ']' :: rest) =
      plainPiece before.reverse ++ plainPiece (List.replicate (slashes / 2) '\\') ++
        (if slashes % 2 = 1 then .plain ('[' :: inside ++ [']']) else markOf inside (position + slashes)) ::
          piecesFrom (position + (slashes + inside.length + 2)) [] rest := by
  obtain ⟨c, tail, split, slashes', found, left⟩ := head_bracket isInside slashes rest
  rw [split, piecesFrom]
  simp only [slashes', List.length_replicate, found, left]

/-- Escaped text has plain pieces only. -/
theorem IsEscaped.plain {s : List Char} (escaped : IsEscaped s) (position : Nat) (before : List Char) :
    ∀ piece ∈ piecesFrom position before s, ∃ text, piece = .plain text := by
  have plain (text : List Char) : ∀ piece ∈ plainPiece text, ∃ text', piece = .plain text' := by
    intro piece known
    rw [plainPiece] at known
    split at known
    · cases known
    · exact ⟨text, List.mem_singleton.mp known⟩
  induction escaped generalizing position before with
  | nil =>
      rw [piecesFrom]
      exact plain _
  | char unmarked _ induction =>
      rw [piecesFrom_cons unmarked]
      exact induction _ _
  | bracket count isInside _ induction =>
      intro piece known
      rw [piecesFrom_bracket isInside, if_pos (by omega)] at known
      rcases List.mem_append.mp known with front | behind
      · rcases List.mem_append.mp front with front | slashes
        · exact plain _ _ front
        · exact plain _ _ slashes
      · rcases List.mem_cons.mp behind with rfl | later
        · exact ⟨_, rfl⟩
        · exact induction _ _ _ later

/-! ## Escaping -/

theorem escapeFrom_cons {c : Char} {rest : List Char} (unmarked : markAtHead? (behindSlashes (c :: rest)) = none) :
    escapeFrom (c :: rest) = c :: escapeFrom rest := by
  rw [behindSlashes] at unmarked
  rw [escapeFrom]
  simp only [unmarked]

theorem escapeFrom_bracket {inside : List Char} (isInside : IsInside inside) (slashes : Nat) (rest : List Char) :
    escapeFrom (List.replicate slashes '\\' ++ '[' :: inside ++ ']' :: rest) =
      List.replicate (2 * slashes + 1) '\\' ++ '[' :: inside ++ ']' :: escapeFrom rest := by
  obtain ⟨c, tail, split, slashes', found, left⟩ := head_bracket isInside slashes rest
  rw [split, escapeFrom]
  simp only [slashes', List.length_replicate, found, left]

/-- Up to a bracket that closes, text in which no bracket opens is as it was before it was escaped. -/
theorem eq_append_of_escapeFrom {s text rest : List Char} {count : Nat} (free : '[' ∉ text)
    (escaped : escapeFrom s ++ List.replicate count '\\' = text ++ ']' :: rest) :
    ∃ rest', s = text ++ ']' :: rest' := by
  have noSlash (count : Nat) : ']' ∉ List.replicate count '\\' := by simp
  induction s using mark_induction generalizing text with
  | nil =>
      rw [escapeFrom, List.nil_append] at escaped
      exact absurd (by simp [escaped]) (noSlash count)
  | char c tail unmarked induction =>
      rw [escapeFrom_cons unmarked] at escaped
      cases text with
      | nil =>
          obtain ⟨rfl, -⟩ := List.cons.inj escaped
          exact ⟨tail, rfl⟩
      | cons d text =>
          obtain ⟨rfl, later⟩ := List.cons.inj escaped
          obtain ⟨rest', rfl⟩ := induction (fun known => free (List.mem_cons_of_mem c known)) later
          exact ⟨rest', rfl⟩
  | bracket slashes inside tail isInside _ =>
      exfalso
      rw [escapeFrom_bracket isInside, List.append_assoc, List.append_assoc, List.cons_append] at escaped
      rcases List.append_eq_append_iff.mp escaped with ⟨between, rfl, same⟩ | ⟨between, whole, same⟩
      · cases between with
        | nil => simp at same
        | cons d between =>
            obtain ⟨rfl, -⟩ := List.cons.inj same
            exact free (by simp)
      · cases between with
        | nil => simp at same
        | cons d between =>
            obtain ⟨rfl, -⟩ := List.cons.inj same
            exact absurd (by simp [whole]) (noSlash (2 * slashes + 1))

/-- Where no mark stands behind the backslashes at the head, none does once the text is escaped. -/
theorem markAtHead?_escapeFrom {s : List Char} (count : Nat) (unmarked : markAtHead? (behindSlashes s) = none) :
    markAtHead? (behindSlashes (escapeFrom s ++ List.replicate count '\\')) = none := by
  induction s with
  | nil =>
      rw [escapeFrom, List.nil_append, behindSlashes_replicate]
      rfl
  | cons c rest induction =>
      rw [escapeFrom_cons unmarked, List.cons_append]
      by_cases slash : c = '\\'
      · rw [slash, behindSlashes_slash] at unmarked ⊢
        exact induction unmarked
      · rw [behindSlashes_of_ne slash] at unmarked ⊢
        by_contra marked
        obtain ⟨inside, found⟩ := Option.ne_none_iff_exists'.mp marked
        obtain ⟨⟨d, body, rfl, begins, free⟩, more, whole⟩ := of_markAtHead?_eq_some found
        obtain ⟨rfl, behind⟩ := List.cons.inj whole
        have noBracket : '[' ∉ d :: body := by
          intro known
          rcases List.mem_cons.mp known with rfl | known
          · exact absurd begins (by decide)
          · exact (free _ known).2 rfl
        obtain ⟨rest', rfl⟩ := eq_append_of_escapeFrom noBracket behind
        have marked' := markAtHead?_of_isInside ⟨d, body, rfl, begins, free⟩ rest'
        exact absurd (marked'.symm.trans unmarked) (by simp)

theorem isEscaped_escapeFrom (s : List Char) (count : Nat) :
    IsEscaped (escapeFrom s ++ List.replicate count '\\') := by
  induction s using mark_induction with
  | nil =>
      rw [escapeFrom, List.nil_append]
      exact isEscaped_slashes count
  | char c rest unmarked induction =>
      have unmarked' := markAtHead?_escapeFrom count unmarked
      rw [escapeFrom_cons unmarked, List.cons_append] at unmarked' ⊢
      exact .char unmarked' induction
  | bracket slashes inside rest isInside induction =>
      rw [escapeFrom_bracket isInside, List.append_assoc, List.cons_append]
      exact .bracket slashes isInside induction

theorem isEscaped_escape (s : List Char) : IsEscaped (escape s) := by
  have plain := isEscaped_escapeFrom s 0
  rw [List.replicate_zero, List.append_nil] at plain
  rw [escape]
  split
  · exact plain
  · exact isEscaped_escapeFrom s 1
  · exact plain

/-! ## Messages behind a sign -/

theorem exists_shownFrom {pieces : List Piece} (plain : ∀ piece ∈ pieces, ∃ text, piece = .plain text)
    (opened : List (List Char)) : ∃ text, shownFrom opened pieces = .ok text := by
  induction pieces with
  | nil => exact ⟨[], rfl⟩
  | cons piece rest induction =>
      obtain ⟨text, rfl⟩ := plain piece List.mem_cons_self
      obtain ⟨shown, behind⟩ := induction fun other known => plain other (List.mem_cons_of_mem _ known)
      exact ⟨withSymbols (unescape text) ++ shown, by rw [shownFrom, behind]; rfl⟩

theorem exists_shownFrom_plainPiece {opened : List (List Char)} {pieces : List Piece}
    (behind : ∃ shows, shownFrom opened pieces = .ok shows) (s : List Char) :
    ∃ shows, shownFrom opened (plainPiece s ++ pieces) = .ok shows := by
  obtain ⟨shows, behind⟩ := behind
  rw [plainPiece]
  split
  · exact ⟨shows, behind⟩
  · exact ⟨withSymbols (unescape s) ++ shows, by rw [List.singleton_append, shownFrom, behind]; rfl⟩

theorem piecesFrom_append {text : List Char} (free : ∀ c ∈ text, c ≠ '[' ∧ c ≠ '\\') (position : Nat)
    (before rest : List Char) :
    piecesFrom position before (text ++ rest) =
      piecesFrom (position + text.length) (text.reverse ++ before) rest := by
  induction text generalizing position before with
  | nil => rfl
  | cons c text induction =>
      obtain ⟨noBracket, noSlash⟩ := free c List.mem_cons_self
      have unmarked : markAtHead? (behindSlashes (c :: (text ++ rest))) = none := by
        rw [behindSlashes_of_ne noSlash]
        by_contra marked
        obtain ⟨inside, found⟩ := Option.ne_none_iff_exists'.mp marked
        obtain ⟨-, more, whole⟩ := of_markAtHead?_eq_some found
        exact noBracket (List.cons.inj whole).1
      rw [List.cons_append, piecesFrom_cons unmarked,
        induction fun other known => free other (List.mem_cons_of_mem c known)]
      simp only [List.length_cons, List.reverse_cons, List.append_assoc, List.singleton_append]
      congr 1
      omega

/-- Whether a mark may hold the name of a style. -/
structure IsStyle (style : List Char) : Prop where
  /-- It begins like a mark. -/
  begins : ∃ c body, style = c :: body ∧ c ≠ '/' ∧ beginsMark c = true
  /-- It has neither brackets nor an equals sign. -/
  free : ∀ c ∈ style, c ≠ ']' ∧ c ≠ '[' ∧ c ≠ '='
  /-- It is more than blanks. -/
  named : (Text.trim style).isEmpty = false

theorem IsStyle.isInside {style : List Char} (isStyle : IsStyle style) :
    IsInside style ∧ IsInside ('/' :: style) := by
  obtain ⟨c, body, rfl, -, begins⟩ := isStyle.begins
  have free : ∀ d ∈ c :: body, d ≠ ']' ∧ d ≠ '[' := fun d known =>
    ⟨(isStyle.free d known).1, (isStyle.free d known).2.1⟩
  exact ⟨⟨c, body, rfl, begins, fun d known => free d (List.mem_cons_of_mem c known)⟩,
    ⟨'/', c :: body, rfl, rfl, free⟩⟩

theorem markOf_of_not_mem {inside : List Char} (free : '=' ∉ inside) (position : Nat) :
    markOf inside position = .mark inside none position := by
  have whole : inside.takeWhile (· ≠ '=') = inside :=
    List.takeWhile_eq_self_iff.mpr fun c known => by
      have other : c ≠ '=' := fun same => free (same ▸ known)
      simpa using other
  rw [markOf, whole]
  simp

/-- A style that begins and ends in front of pieces that can be shown leaves nothing open. -/
theorem exists_shownFrom_styled {style : List Char} (isStyle : IsStyle style) (sign : List Char) {pieces : List Piece}
    (behind : ∃ text, shownFrom [] pieces = .ok text) (position position' : Nat) :
    ∃ text, shownFrom [] (markOf style position :: (plainPiece sign ++ markOf ('/' :: style) position' :: pieces)) =
      .ok text := by
  obtain ⟨text, behind⟩ := behind
  have noEquals : '=' ∉ style := fun known => (isStyle.free _ known).2.2 rfl
  have closes : shownFrom [styleName style] (.mark ('/' :: style) none position' :: pieces) = .ok text := by
    rw [shownFrom, if_neg (by simp [isStyle.named])]
    simp only [close?, if_true, behind]
  have opens (more : List Piece) : shownFrom [] (.mark style none position :: more) =
      shownFrom [styleName style] more := by
    obtain ⟨c, body, rfl, notSlash, -⟩ := isStyle.begins
    rw [shownFrom]
    rintro name ⟨⟩
    exact notSlash rfl
  rw [markOf_of_not_mem noEquals, markOf_of_not_mem (by simp [noEquals]), opens]
  exact exists_shownFrom_plainPiece ⟨text, closes⟩ sign

/-- Escaped text behind a sign in a style can be shown. -/
theorem exists_shown_signed {style sign : List Char} (isStyle : IsStyle style)
    (free : ∀ c ∈ sign, c ≠ '[' ∧ c ≠ '\\') {rest : List Char} (escaped : IsEscaped rest) :
    ∃ text, shown ('[' :: style ++ ']' :: (sign ++ ('[' :: '/' :: style ++ ']' :: rest))) = .ok text := by
  obtain ⟨isInside, isInside'⟩ := isStyle.isInside
  have first (rest : List Char) := piecesFrom_bracket isInside 0 0 [] rest
  have second (position : Nat) := piecesFrom_bracket isInside' 0 position (sign.reverse ++ []) rest
  simp only [List.replicate_zero, List.nil_append, Nat.zero_div, Nat.zero_mod, Nat.zero_ne_one, if_false]
    at first second
  have none : plainPiece [] = [] := rfl
  obtain ⟨text, shows⟩ := exists_shownFrom_styled isStyle sign (exists_shownFrom (escaped.plain _ []) []) _ _
  refine ⟨text.filter (!isControl ·), ?_⟩
  rw [shown, pieces, first, piecesFrom_append free, second, List.append_nil, List.reverse_reverse, List.reverse_nil,
    none, List.append_nil, List.append_nil, List.nil_append, shows]
  rfl

/-- A message behind a sign in a style is printed, whatever its characters are. -/
theorem exists_printed_signed {style sign : String} (isStyle : IsStyle style.toList)
    (free : ∀ c ∈ sign.toList, c ≠ '[' ∧ c ≠ '\\') (message : List Char) :
    ∃ lines, printed ("[" ++ style ++ "]" ++ sign ++ "[/" ++ style ++ "] " ++ String.ofList (escape message)) =
      .ok lines := by
  have blank : IsEscaped (' ' :: escape message) := by
    refine .char ?_ (isEscaped_escape message)
    rw [behindSlashes_of_ne (by decide)]
    rfl
  obtain ⟨text, shows⟩ := exists_shown_signed isStyle free blank
  have spelled : ("[" ++ style ++ "]" ++ sign ++ "[/" ++ style ++ "] " ++ String.ofList (escape message)).toList =
      '[' :: style.toList ++ ']' :: (sign.toList ++ ('[' :: '/' :: style.toList ++ ']' :: ' ' :: escape message)) := by
    simp
  exact ⟨_, by rw [printed, shownLines, spelled, shows]; rfl⟩

theorem isStyle_colors : IsStyle "green".toList ∧ IsStyle "red".toList ∧ IsStyle "yellow".toList := by
  have green : "green".toList = ['g', 'r', 'e', 'e', 'n'] := by decide
  have red : "red".toList = ['r', 'e', 'd'] := by decide
  have yellow : "yellow".toList = ['y', 'e', 'l', 'l', 'o', 'w'] := by decide
  rw [green, red, yellow]
  exact ⟨⟨⟨_, _, rfl, by decide, rfl⟩, by simp, by decide⟩, ⟨⟨_, _, rfl, by decide, rfl⟩, by simp, by decide⟩,
    ⟨⟨_, _, rfl, by decide, rfl⟩, by simp, by decide⟩⟩

theorem isStyle_cyan : IsStyle "cyan".toList := by
  have cyan : "cyan".toList = ['c', 'y', 'a', 'n'] := by decide
  rw [cyan]
  exact ⟨⟨_, _, rfl, by decide, rfl⟩, by simp, by decide⟩

end Stencil.Console
