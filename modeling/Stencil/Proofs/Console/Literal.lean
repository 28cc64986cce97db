import Mathlib
import Stencil.Proofs.Console.Escape
import Stencil.Proofs.Disk.Path
import Stencil.Proofs.Outcome

/-!
# Text that shows itself

Whatever the console does to a text takes special characters away: the bracket of a mark, a backslash in front of a
bracket, the colons of a code, tabs and controls.  So a text shows itself exactly if nothing is done to it.
-/

namespace Stencil.Console

/-! ## Special characters -/

/-- Whether a character is one that the console may take away. -/
def isSpecial (c : Char) : Bool :=
  c = '[' || c = '\\' || c = ':' || c = '\t' || isControl c

/-- How many special characters a text has. -/
def weight (s : List Char) : Nat :=
  s.countP isSpecial

@[simp]
theorem weight_append (s t : List Char) : weight (s ++ t) = weight s + weight t :=
  List.countP_append

@[simp]
theorem weight_nil : weight [] = 0 := rfl

theorem weight_cons (c : Char) (s : List Char) : weight (c :: s) = weight s + weight [c] := by
  rw [weight, weight, weight, List.countP_cons, List.countP_singleton]

theorem weight_cons_of_special {c : Char} (special : isSpecial c = true) (s : List Char) :
    weight (c :: s) = weight s + 1 :=
  List.countP_cons_of_pos special

@[simp]
theorem weight_reverse (s : List Char) : weight s.reverse = weight s :=
  List.countP_reverse

@[simp]
theorem weight_slashes (count : Nat) : weight (List.replicate count '\\') = count := by
  simp [weight, List.countP_replicate, isSpecial]

/-- Whether a text is as it was, or has fewer special characters. -/
def Lightens (before after : List Char) : Prop :=
  after = before ∨ weight after < weight before

namespace Lightens

variable {s t u : List Char}

theorem le (lightens : Lightens s t) : weight t ≤ weight s := by
  rcases lightens with rfl | less
  · exact le_refl _
  · exact less.le

theorem trans (first : Lightens s t) (second : Lightens t u) : Lightens s u := by
  rcases first with rfl | less
  · exact second
  · exact .inr (second.le.trans_lt less)

/-- A text that has become what it was has never been anything else. -/
theorem antisymm (first : Lightens s t) (second : Lightens t s) : t = s := by
  rcases first with same | less
  · exact same
  · exact absurd second.le (Nat.not_le_of_lt less)

theorem append {s' t' : List Char} (first : Lightens s t) (second : Lightens s' t') :
    Lightens (s ++ s') (t ++ t') := by
  have le := second.le
  rcases first with rfl | less
  · rcases second with rfl | less'
    · exact .inl rfl
    · exact .inr (by simpa using less')
  · exact .inr (by rw [weight_append, weight_append]; omega)

theorem cons (c : Char) (lightens : Lightens s t) : Lightens (c :: s) (c :: t) :=
  append (.inl rfl : Lightens [c] [c]) lightens

end Lightens

/-! ## What is done to a text -/

set_option maxRecDepth 16384 in
theorem weight_of_mem_symbols : ∀ entry ∈ symbols, weight (entry.2.map Char.ofNat) = 0 := by
  decide +kernel

/-- No symbol is special. -/
theorem weight_symbol {name symbol : List Char} (found : symbol? name = some symbol) : weight symbol = 0 := by
  have named {name symbol : List Char} (found : symbolNamed? name = some symbol) : weight symbol = 0 := by
    obtain ⟨codes, listed, rfl⟩ := Option.map_eq_some_iff.mp found
    obtain ⟨before, after, whole, -⟩ := List.lookup_eq_some_iff.mp listed
    have known : (String.ofList (Text.lower name), codes) ∈ symbols := by simp [whole]
    exact weight_of_mem_symbols _ known
  have looks' : ∀ look ∈ looks, weight look.2.toList = 0 := by decide +kernel
  rw [symbol?] at found
  split at found
  · rename_i known
    obtain ⟨plain, found', rfl⟩ := Option.map_eq_some_iff.mp found
    rw [weight_append, named found', looks' _ (List.mem_of_find?_eq_some known)]
  · exact named found

theorem eq_append_of_nameAtHead? {s name : List Char} (found : nameAtHead? s = some name) :
    ∃ more, s = name ++ ':' :: more := by
  rw [nameAtHead?] at found
  set text := s.takeWhile fun c => c ≠ ':' && !Text.isBlank c with cut
  split at found
  · rename_i colon
    obtain rfl := Option.some.inj found
    obtain ⟨more, behind⟩ := List.head?_eq_some_iff.mp colon
    refine ⟨more, ?_⟩
    rw [← behind]
    conv_lhs => rw [← List.take_append_drop text.length s, ← List.prefix_iff_eq_take.mp (List.takeWhile_prefix _)]
  · cases found

theorem lightens_withSymbols (s : List Char) : Lightens s (withSymbols s) := by
  fun_induction withSymbols s with
  | case1 => exact .inl rfl
  | case2 rest name found induction =>
      obtain ⟨more, rfl⟩ := eq_append_of_nameAtHead? found
      have behind : (name ++ ':' :: more).drop (name.length + 1) = more := by simp
      rw [behind] at induction ⊢
      cases shows : symbol? name with
      | none =>
          have code : Lightens (':' :: name ++ [':']) (':' :: name ++ [':']) := .inl rfl
          simpa using code.append induction
      | some symbol =>
          have colon : isSpecial ':' = true := rfl
          have le := induction.le
          refine .inr ?_
          rw [Option.getD_some, weight_append, weight_symbol shows, weight_cons_of_special colon, weight_append,
            weight_cons_of_special colon]
          omega
  | case3 rest _ induction => exact induction.cons ':'
  | case4 c rest _ induction => exact induction.cons c

theorem lightens_unescape (s : List Char) : Lightens s (unescape s) := by
  fun_induction unescape s with
  | case1 rest induction =>
      have le := (induction.cons '[').le
      have slash : isSpecial '\\' = true := rfl
      exact .inr (by rw [weight_cons_of_special slash]; omega)
  | case2 c rest _ induction => exact induction.cons c
  | case3 => exact .inl rfl

theorem unescape_eq_self_iff (s : List Char) : unescape s = s ↔ ¬['\\', '['] <:+: s := by
  fun_induction unescape s with
  | case1 rest _ =>
      have inside : ['\\', '['] <:+: '\\' :: '[' :: rest := ⟨[], rest, rfl⟩
      simp [inside]
  | case2 c rest other induction =>
      rw [List.cons_inj_right, induction, List.infix_cons_iff, not_or, iff_and_self]
      rintro - ⟨more, whole⟩
      obtain ⟨rfl, rfl⟩ := List.cons.inj whole
      exact other more rfl rfl
  | case3 => simp

theorem expandTabs_eq_self {s : List Char} (free : '\t' ∉ s) (column : Nat) : expandTabs column s = s := by
  fun_induction expandTabs column s with
  | case1 => rfl
  | case2 => simp at free
  | case3 column c rest _ induction => rw [induction fun known => free (List.mem_cons_of_mem c known)]

theorem tab_not_mem_expandTabs (column : Nat) (s : List Char) : '\t' ∉ expandTabs column s := by
  fun_induction expandTabs column s with
  | case1 => simp
  | case2 column rest count induction => simpa using induction
  | case3 column c rest other induction =>
      rw [List.mem_cons, not_or]
      exact ⟨fun same => other same.symm, induction⟩

theorem lightens_filter (s : List Char) : Lightens s (s.filter (!isControl ·)) := by
  induction s with
  | nil => exact .inl rfl
  | cons c rest induction =>
      rw [List.filter_cons]
      split
      · exact induction.cons c
      · rename_i control
        have special : isSpecial c = true := by simp_all [isSpecial]
        have le := induction.le
        exact .inr (by rw [weight_cons_of_special special]; omega)

theorem lightens_expandTabs (column : Nat) (s : List Char) : Lightens s (expandTabs column s) := by
  fun_induction expandTabs column s with
  | case1 => exact .inl rfl
  | case2 column rest count induction =>
      have tab : isSpecial '\t' = true := rfl
      have blanks : weight (List.replicate count ' ') = 0 := by simp [weight, isSpecial, isControl]
      have le := induction.le
      refine .inr ?_
      rw [weight_append, blanks, weight_cons_of_special tab]
      omega
  | case3 column c rest other induction => exact induction.cons c

theorem textLines_eq_splitAtChar (s : List Char) : textLines s = Disk.splitAtChar '\n' s := by
  fun_induction textLines s with
  | case1 => rfl
  | case2 rest induction => rw [Disk.splitAtChar, if_pos rfl, induction]
  | case3 c rest other none induction => rw [Disk.splitAtChar, if_neg other, ← induction, none]
  | case4 c rest other line more split induction => rw [Disk.splitAtChar, if_neg other, ← induction, split]

theorem textLines_eq_singleton_iff {s line : List Char} : textLines s = [line] ↔ line = s ∧ '\n' ∉ s := by
  rw [textLines_eq_splitAtChar]
  constructor
  · intro split
    have joined := Disk.joinWith_splitAtChar '\n' s
    rw [split] at joined
    obtain rfl : line = s := joined
    exact ⟨rfl, Disk.not_mem_of_mem_splitAtChar (by rw [split]; exact List.mem_singleton_self line)⟩
  · rintro ⟨rfl, free⟩
    exact Disk.splitAtChar_of_not_mem free

/-! ## Marks -/

/-- Whether a mark stands in a text, be it escaped or not. -/
def IsMarked (s : List Char) : Prop :=
  ∃ before inside after, IsInside inside ∧ s = before ++ '[' :: inside ++ ']' :: after

theorem IsMarked.tail {c : Char} {rest : List Char} (marked : IsMarked (c :: rest))
    (unmarked : markAtHead? (behindSlashes (c :: rest)) = none) : IsMarked rest := by
  obtain ⟨before, inside, after, isInside, whole⟩ := marked
  cases before with
  | nil =>
      rw [whole, List.nil_append, List.cons_append, behindSlashes_of_ne (by decide), ← List.cons_append,
        markAtHead?_of_isInside isInside] at unmarked
      cases unmarked
  | cons d before =>
      obtain ⟨rfl, rfl⟩ := List.cons.inj whole
      exact ⟨before, inside, after, isInside, rfl⟩

theorem IsMarked.cons (c : Char) {rest : List Char} (marked : IsMarked rest) : IsMarked (c :: rest) := by
  obtain ⟨before, inside, after, isInside, rfl⟩ := marked
  exact ⟨c :: before, inside, after, isInside, rfl⟩

/-- Text without marks is one piece. -/
theorem piecesFrom_of_not_isMarked {s : List Char} (unmarked : ¬IsMarked s) (position : Nat) (before : List Char) :
    piecesFrom position before s = plainPiece (before.reverse ++ s) := by
  induction s using mark_induction generalizing position before with
  | nil => rw [piecesFrom, List.append_nil]
  | char c rest head induction =>
      rw [piecesFrom_cons head, induction fun marked => unmarked (marked.cons c)]
      simp
  | bracket slashes inside rest isInside =>
      exact absurd ⟨_, inside, rest, isInside, rfl⟩ unmarked

theorem shownFrom_pieces_of_not_isMarked {s : List Char} (unmarked : ¬IsMarked s) (opened : List (List Char)) :
    shownFrom opened (pieces s) = .ok (withSymbols (unescape s)) := by
  rw [pieces, piecesFrom_of_not_isMarked unmarked, List.reverse_nil, List.nil_append, plainPiece]
  split
  · rename_i none
    rw [List.isEmpty_iff.mp none, shownFrom, unescape, withSymbols]
  · rw [shownFrom, shownFrom]
    exact congrArg Except.ok (List.append_nil _)

theorem shownFrom_plain {opened : List (List Char)} {s shows : List Char} {pieces : List Piece}
    (shown : shownFrom opened (.plain s :: pieces) = .ok shows) :
    ∃ behind, shownFrom opened pieces = .ok behind ∧ shows = withSymbols (unescape s) ++ behind := by
  rw [shownFrom] at shown
  obtain ⟨behind, shown', whole⟩ := map_eq_ok_iff.mp shown
  exact ⟨behind, shown', whole.symm⟩

theorem shownFrom_plainPiece {opened : List (List Char)} {s shows : List Char} {pieces : List Piece}
    (shown : shownFrom opened (plainPiece s ++ pieces) = .ok shows) :
    ∃ behind, shownFrom opened pieces = .ok behind ∧ shows = withSymbols (unescape s) ++ behind := by
  rw [plainPiece] at shown
  split at shown
  · rename_i none
    obtain rfl := List.isEmpty_iff.mp none
    refine ⟨shows, shown, ?_⟩
    rw [unescape, withSymbols, List.nil_append]
  · exact shownFrom_plain shown

/-- A mark shows nothing. -/
theorem shownFrom_mark {opened : List (List Char)} {name shows : List Char} {value : Option (List Char)}
    {position : Nat} {pieces : List Piece}
    (shown : shownFrom opened (.mark name value position :: pieces) = .ok shows) :
    ∃ opened', shownFrom opened' pieces = .ok shows := by
  by_cases ends : ∃ name', name = '/' :: name'
  · obtain ⟨name', rfl⟩ := ends
    cases opened with
    | nil =>
        rw [shownFrom] at shown
        split at shown <;> cases shown
    | cons last before =>
        rw [shownFrom] at shown
        split at shown
        · exact ⟨before, shown⟩
        · split at shown
          · cases shown
          · exact ⟨_, shown⟩
  · rw [shownFrom] at shown
    · exact ⟨_, shown⟩
    · exact fun name' whole => ends ⟨name', whole⟩

theorem lightens_plain (s : List Char) : Lightens s (withSymbols (unescape s)) :=
  (lightens_unescape s).trans (lightens_withSymbols _)

/-- Marked text has more special characters than it shows. -/
theorem weight_shownFrom {opened : List (List Char)} {position : Nat} {before s shows : List Char}
    (shown : shownFrom opened (piecesFrom position before s) = .ok shows) :
    weight shows ≤ weight before + weight s ∧ (IsMarked s → weight shows < weight before + weight s) := by
  induction s using mark_induction generalizing opened position before shows with
  | nil =>
      rw [piecesFrom, ← List.append_nil (plainPiece _)] at shown
      obtain ⟨behind, nothing, rfl⟩ := shownFrom_plainPiece shown
      obtain rfl : [] = behind := Except.ok.inj nothing
      have le := (lightens_plain before.reverse).le
      rw [weight_reverse] at le
      refine ⟨by simpa using le, fun marked => ?_⟩
      obtain ⟨front, inside, after, -, whole⟩ := marked
      simp at whole
  | char c rest head induction =>
      rw [piecesFrom_cons head] at shown
      obtain ⟨le, less⟩ := induction shown
      have moved : weight (c :: before) + weight rest = weight before + weight (c :: rest) := by
        rw [weight_cons, weight_cons c rest]
        omega
      rw [moved] at le less
      exact ⟨le, fun marked => less (marked.tail head)⟩
  | bracket slashes inside rest isInside induction =>
      have whole : weight (List.replicate slashes '\\' ++ '[' :: inside ++ ']' :: rest) =
          slashes + weight ('[' :: inside ++ [']']) + weight rest := by
        rw [← weight_slashes slashes, ← weight_append, ← weight_append]
        simp
      have bracket : 0 < weight ('[' :: inside ++ [']']) := List.countP_pos_iff.mpr ⟨'[', by simp, rfl⟩
      have less : weight shows < weight before + (slashes + weight ('[' :: inside ++ [']']) + weight rest) := by
        rw [piecesFrom_bracket isInside, List.append_assoc] at shown
        obtain ⟨shows', shown', rfl⟩ := shownFrom_plainPiece shown
        obtain ⟨shows'', shown'', rfl⟩ := shownFrom_plainPiece shown'
        have le := (lightens_plain before.reverse).le
        have le' := (lightens_plain (List.replicate (slashes / 2) '\\')).le
        rw [weight_reverse] at le
        rw [weight_slashes] at le'
        rw [weight_append, weight_append]
        split at shown''
        · obtain ⟨behind, later, rfl⟩ := shownFrom_plain shown''
          have behind' := (induction later).1
          have le'' := (lightens_plain ('[' :: inside ++ [']'])).le
          rw [weight_nil] at behind'
          rw [weight_append]
          omega
        · obtain ⟨opened', later⟩ := shownFrom_mark shown''
          have behind' := (induction later).1
          rw [weight_nil] at behind'
          omega
      rw [whole]
      exact ⟨less.le, fun _ => less⟩

/-! ## Text that shows itself -/

/-- Whether nothing in a text means anything to the console. -/
structure IsLiteral (s : List Char) : Prop where
  /-- Its brackets hold nothing that could be a mark. -/
  unmarked : ¬IsMarked s
  /-- No backslash stands in front of a bracket. -/
  unescaped : ¬['\\', '['] <:+: s
  /-- None of its codes is that of a symbol. -/
  uncoded : withSymbols s = s
  /-- It is on one line, and has no tabs. -/
  steady : ∀ c ∈ s, isControl c = false ∧ c ≠ '\n' ∧ c ≠ '\t'

/-- The console shows a text as it is exactly if nothing in it means anything to the console. -/
theorem shownLines_eq_self_iff (s : String) : shownLines s = .ok [s.toList] ↔ IsLiteral s.toList := by
  rw [shownLines, shown]
  generalize s.toList = s
  constructor
  · intro shows
    obtain ⟨line, shown', lines⟩ := map_eq_ok_iff.mp shows
    obtain ⟨text, read, filtered⟩ := map_eq_ok_iff.mp shown'
    obtain ⟨line', split, expanded⟩ := List.map_eq_singleton_iff.mp lines
    obtain ⟨rfl, noBreak⟩ := textLines_eq_singleton_iff.mp split
    have laid : Lightens line' s := expanded ▸ lightens_expandTabs 0 line'
    have last : Lightens text s := .trans (filtered ▸ lightens_filter text) laid
    have unmarked : ¬IsMarked s := fun marked => by
      have less := (weight_shownFrom read).2 marked
      rw [weight_nil, Nat.zero_add] at less
      exact absurd last.le (Nat.not_le_of_lt less)
    rw [shownFrom_pieces_of_not_isMarked unmarked] at read
    obtain rfl := Except.ok.inj read
    -- Each step is undone by the steps behind it, so it has done nothing.
    have unescaped := (lightens_unescape s).antisymm ((lightens_withSymbols _).trans last)
    rw [unescaped] at last filtered
    have uncoded := (lightens_withSymbols s).antisymm last
    rw [uncoded] at filtered
    have kept := (lightens_filter s).antisymm (filtered ▸ laid)
    obtain rfl : s = line' := kept.symm.trans filtered
    refine ⟨unmarked, (unescape_eq_self_iff s).mp unescaped, uncoded, fun c known => ⟨?_, ?_, ?_⟩⟩
    · simpa using List.filter_eq_self.mp kept c known
    · rintro rfl
      exact noBreak known
    · rintro rfl
      rw [← expanded] at known
      exact tab_not_mem_expandTabs 0 s known
  · intro isLiteral
    have noControl : s.filter (!isControl ·) = s :=
      List.filter_eq_self.mpr fun c known => by simp [(isLiteral.steady c known).1]
    have oneLine : textLines s = [s] :=
      textLines_eq_singleton_iff.mpr ⟨rfl, fun known => (isLiteral.steady _ known).2.1 rfl⟩
    have noTab : '\t' ∉ s := fun known => (isLiteral.steady _ known).2.2 rfl
    rw [shownFrom_pieces_of_not_isMarked isLiteral.unmarked, (unescape_eq_self_iff s).mpr isLiteral.unescaped,
      isLiteral.uncoded]
    change Except.ok (plainLines (s.filter (!isControl ·))) = Except.ok [s]
    rw [noControl, plainLines, oneLine, List.map_singleton, expandTabs_eq_self noTab]

/-- A line without special characters means nothing to the console. -/
theorem isLiteral_of_weight {s : List Char} (light : weight s = 0) (noBreak : '\n' ∉ s) : IsLiteral s := by
  have tame {c : Char} (known : c ∈ s) : isSpecial c = false := by simpa using List.countP_eq_zero.mp light c known
  have noBracket : '[' ∉ s := fun known => absurd (tame known) (by decide)
  refine ⟨?_, fun escaped => noBracket (escaped.subset (by simp)), ?_, fun c known => ⟨?_, ?_, ?_⟩⟩
  · rintro ⟨before, inside, after, -, rfl⟩
    exact noBracket (by simp)
  · exact (lightens_withSymbols s).resolve_right fun less => absurd less (light ▸ Nat.not_lt_zero _)
  · have tame := tame known
    simp only [isSpecial, Bool.or_eq_false_iff] at tame
    exact tame.2
  · rintro rfl
    exact noBreak known
  · rintro rfl
    exact absurd (tame known) (by decide)

/-! ## Text that can be shown -/

/-- Text without slashes has no marks that end others, so it can be shown. -/
theorem exists_shownFrom_of_not_mem {s : List Char} (free : '/' ∉ s) (opened : List (List Char)) (position : Nat)
    (before : List Char) : ∃ shows, shownFrom opened (piecesFrom position before s) = .ok shows := by
  induction s using mark_induction generalizing opened position before with
  | nil =>
      rw [piecesFrom, ← List.append_nil (plainPiece _)]
      exact exists_shownFrom_plainPiece ⟨[], rfl⟩ _
  | char c rest head induction =>
      rw [piecesFrom_cons head]
      exact induction (fun known => free (List.mem_cons_of_mem c known)) _ _ _
  | bracket slashes inside rest isInside induction =>
      have later (opened : List (List Char)) := induction (fun known => free (by simp [known])) opened
        (position + (slashes + inside.length + 2)) []
      rw [piecesFrom_bracket isInside, List.append_assoc]
      refine exists_shownFrom_plainPiece (exists_shownFrom_plainPiece ?_ _) _
      split
      · obtain ⟨shows, later⟩ := later opened
        exact ⟨withSymbols (unescape ('[' :: inside ++ [']'])) ++ shows, by rw [shownFrom, later]; rfl⟩
      · rw [markOf, shownFrom]
        · exact later _
        · intro name whole
          have known : '/' ∈ inside.takeWhile (· ≠ '=') := by
            rw [whole]
            exact List.mem_cons_self
          exact free (by simp [List.takeWhile_subset _ known])

theorem exists_shown_of_not_mem {s : List Char} (free : '/' ∉ s) : ∃ shows, shown s = .ok shows := by
  obtain ⟨shows, read⟩ := exists_shownFrom_of_not_mem free [] 0 []
  exact ⟨_, by rw [shown, pieces, read]; rfl⟩

end Stencil.Console
