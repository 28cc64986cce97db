import Mathlib.Data.List.DropRight
import Stencil.Text.Blank

/-!
# Trimmed texts

A text that is trimmed ends with a character that is kept, and a text that ends so is trimmed already.
-/

namespace Stencil.Text

variable {drops : Char → Bool} {c : Char} {s : List Char}

/-! ## Trimming at the end -/

theorem trimEndWith_append_cons (drops : Char → Bool) {c : Char} (kept : drops c = false) (front more : List Char) :
    trimEndWith drops (front ++ c :: more) = front ++ c :: trimEndWith drops more := by
  have stays : (c :: front.reverse).dropWhile drops = c :: front.reverse :=
    List.dropWhile_cons_of_neg (by simp [kept])
  have reversed : (front ++ c :: more).reverse = more.reverse ++ c :: front.reverse := by simp
  rw [trimEndWith, trimEndWith, reversed, List.dropWhile_append]
  split
  · rename_i dropped
    rw [stays, List.isEmpty_iff.mp dropped]
    simp
  · simp

theorem trimEndWith_isPrefix (drops : Char → Bool) (s : List Char) : trimEndWith drops s <+: s :=
  List.rdropWhile_prefix drops s

theorem kept_of_getLast?_trimEndWith (last : (trimEndWith drops s).getLast? = some c) : drops c = false := by
  have nonempty : trimEndWith drops s ≠ [] := by
    intro empty
    rw [empty] at last
    cases last
  rw [List.getLast?_eq_some_getLast nonempty] at last
  cases last
  exact Bool.eq_false_iff.mpr (List.rdropWhile_last_not drops s nonempty)

theorem trimEndWith_eq_self (kept : ∀ c, s.getLast? = some c → drops c = false) : trimEndWith drops s = s :=
  List.rdropWhile_eq_self_iff.mpr fun nonempty =>
    Bool.eq_false_iff.mp (kept _ (List.getLast?_eq_some_getLast nonempty))

/-- A text of which all characters are dropped is left empty. -/
theorem trimEndWith_eq_nil (dropped : ∀ c ∈ s, drops c = true) : trimEndWith drops s = [] :=
  List.rdropWhile_eq_nil_iff.mpr dropped

/-! ## Trimming at both ends -/

/-- Whether a text neither begins nor ends with a blank. -/
structure IsTrimmed (s : List Char) : Prop where
  /-- It does not begin with one. -/
  head : ∀ c, s.head? = some c → isBlank c = false
  /-- It does not end with one. -/
  last : ∀ c, s.getLast? = some c → isBlank c = false

theorem isTrimmed_trim (s : List Char) : IsTrimmed (trim s) where
  head c first := by
    -- The head is that of the text before its end was trimmed.
    obtain ⟨more, whole⟩ := trimEndWith_isPrefix isBlank (trimStart s)
    have begins : (trimStart s).head? = some c := by
      rw [← whole, List.head?_append]
      exact Option.or_eq_some_iff.mpr (.inl first)
    have kept := List.head?_dropWhile_not isBlank s
    rw [trimStart, trimStartWith] at begins
    simpa [begins] using kept
  last _ last := kept_of_getLast?_trimEndWith last

theorem IsTrimmed.trim_eq_self (isTrimmed : IsTrimmed s) : trim s = s := by
  have start : trimStart s = s := by
    cases s with
    | nil => rfl
    | cons c rest => exact List.dropWhile_cons_of_neg (by simp [isTrimmed.head c rfl])
  rw [trim, start]
  exact trimEndWith_eq_self isTrimmed.last

theorem trim_cons (solid : isBlank c = false) (s : List Char) : trim (c :: s) = trimEnd (c :: s) := by
  rw [trim, trimStart, trimStartWith, List.dropWhile_cons_of_neg (by simp [solid])]

theorem head?_trim (solid : isBlank c = false) (s : List Char) : (trim (c :: s)).head? = some c := by
  have trimmed := trimEndWith_append_cons isBlank solid [] s
  rw [trim_cons solid, trimEnd, ← List.nil_append (c :: s), trimmed]
  rfl

/-- Blanks at the ends of a text are trimmed away. -/
theorem trim_padded {before behind : List Char} (blankBefore : ∀ c ∈ before, isBlank c = true)
    (blankBehind : ∀ c ∈ behind, isBlank c = true) (isTrimmed : IsTrimmed s) (some : s ≠ []) :
    trim (before ++ s ++ behind) = s := by
  have start : trimStart (before ++ s ++ behind) = s ++ behind := by
    rw [List.append_assoc, trimStart, trimStartWith, List.dropWhile_append_of_pos blankBefore]
    cases s with
    | nil => exact absurd rfl some
    | cons c rest =>
        have solid := isTrimmed.head c rfl
        exact List.dropWhile_cons_of_neg (by simp [solid])
  obtain ⟨front, c, rfl⟩ := s.eq_nil_or_concat'.resolve_left some
  have solid : isBlank c = false := isTrimmed.last c (by simp)
  have trimmed := trimEndWith_append_cons isBlank solid front behind
  rw [trimEndWith_eq_nil blankBehind] at trimmed
  rw [trim, start, trimEnd, List.append_assoc, List.singleton_append, trimmed]

end Stencil.Text
