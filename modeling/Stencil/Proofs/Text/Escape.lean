import Mathlib.Tactic.Ring
import Stencil.Text.Escape
import Stencil.Text.Quoted

/-!
# Reading quoted text back

What is written for a character between two marks is read back as that character, so the quoted form of a
text stands for the text.
-/

namespace Stencil.Text

/-! ## Codes -/

private theorem hexValue?_hexDigit : ∀ n < 16, hexValue? (hexDigit n) = some n := by
  decide

theorem hexRun_hexPadded_append (width count n value : Nat) (rest : List Char) :
    hexRun (width + count) value (hexPadded width n ++ rest) =
      (width + (hexRun count (16 ^ width * value + n % 16 ^ width) rest).1,
        (hexRun count (16 ^ width * value + n % 16 ^ width) rest).2) := by
  induction width generalizing count n rest with
  | zero => simp [hexPadded, Nat.mod_one]
  | succ width induction =>
      have digit := hexValue?_hexDigit (n % 16) (Nat.mod_lt n (by decide))
      have split : 16 * (16 ^ width * value + n / 16 % 16 ^ width) + n % 16 =
          16 ^ (width + 1) * value + n % 16 ^ (width + 1) := by
        rw [Nat.pow_succ', Nat.mod_mul]
        ring
      rw [hexPadded, List.append_assoc, Nat.add_assoc, Nat.add_comm 1 count, induction, List.singleton_append]
      simp only [hexRun, digit, split]
      ring_nf

theorem toNat_lt (c : Char) : c.toNat < 0x110000 := by
  have valid : c.toNat.isValidChar := c.valid
  rw [Nat.isValidChar] at valid
  omega

theorem readCode_hexPadded {width : Nat} {c : Char} (fits : c.toNat < 16 ^ width) (column : Nat)
    (reason : EscapeReason) (rest : List Char) :
    readCode column width reason (hexPadded width c.toNat ++ rest) = .ok ([c], 2 + width, rest) := by
  have run := hexRun_hexPadded_append width 0 c.toNat 0 rest
  rw [Nat.add_zero, Nat.mul_zero, Nat.zero_add, Nat.mod_eq_of_lt fits, hexRun] at run
  have valid : c.toNat.isValidChar := c.valid
  have last : ¬0x10FFFF < c.toNat := Nat.not_lt.mpr (Nat.le_of_lt_succ (toNat_lt c))
  simp [readCode, run, last, valid]

/-! ## Characters -/

theorem unescapeFrom_plain {c : Char} (plain : c ≠ '\\') (rest : List Char) (column : Nat) :
    unescapeFrom column (c :: rest) = (unescapeFrom (column + columns c) rest).map (c :: ·) := by
  rw [unescapeFrom, if_neg plain]

theorem unescapeFrom_escape {rest text behind : List Char} {column width : Nat}
    (read : readEscape column rest = .ok (text, width, behind)) :
    unescapeFrom column ('\\' :: rest) = (unescapeFrom (column + width) behind).map (text ++ ·) := by
  rw [unescapeFrom, if_pos rfl]
  split
  case h_1 fault failed =>
    rw [read] at failed
    cases failed
  case h_2 text' width' behind' found =>
    rw [read] at found
    cases found
    rfl

/-- What is written for a character stands for it. -/
theorem unescapeFrom_escapeChar {mark : Char} (isMark : mark = '\'' ∨ mark = '"') (c : Char) (rest : List Char)
    (column : Nat) :
    ∃ column', unescapeFrom column (escapeChar mark c ++ rest) = (unescapeFrom column' rest).map (c :: ·) := by
  have escape (text : List Char) {width : Nat} (read : readEscape column (text ++ rest) = .ok ([c], width, rest)) :
      ∃ column', unescapeFrom column ('\\' :: text ++ rest) = (unescapeFrom column' rest).map (c :: ·) :=
    ⟨_, unescapeFrom_escape read⟩
  have code {letter : Char} {width : Nat} {reason : EscapeReason} (fits : c.toNat < 16 ^ width)
      (read : ∀ s, readEscape column (letter :: s) = readCode column width reason s) :
      ∃ column', unescapeFrom column ('\\' :: letter :: hexPadded width c.toNat ++ rest) =
        (unescapeFrom column' rest).map (c :: ·) :=
    escape (letter :: hexPadded width c.toNat)
      ((read _).trans (readCode_hexPadded fits column reason rest))
  unfold escapeChar
  split
  case isTrue same =>
    have known : c = '\'' ∨ c = '"' ∨ c = '\\' := by
      simp only [Bool.or_eq_true, decide_eq_true_eq] at same
      rcases isMark with rfl | rfl
      · exact same.elim .inl fun slash => .inr (.inr slash)
      · exact .inr same
    rcases known with rfl | rfl | rfl
    · exact escape ['\''] rfl
    · exact escape ['"'] rfl
    · exact escape ['\\'] rfl
  case isFalse different =>
  split
  case isTrue tab => exact escape ['t'] (by rw [tab]; rfl)
  case isFalse =>
  split
  case isTrue line => exact escape ['n'] (by rw [line]; rfl)
  case isFalse =>
  split
  case isTrue ret => exact escape ['r'] (by rw [ret]; rfl)
  case isFalse =>
  split
  case isTrue =>
    have plain : c ≠ '\\' := by
      simp only [Bool.or_eq_true, decide_eq_true_eq, not_or] at different
      exact different.2
    exact ⟨_, unescapeFrom_plain plain rest column⟩
  case isFalse =>
  split
  case isTrue small => exact code small fun s => rfl
  case isFalse =>
  split
  case isTrue small => exact code small fun s => rfl
  case isFalse => exact code (Nat.lt_trans (toNat_lt c) (by decide)) fun s => rfl

/-- The escapes of a text stand for it. -/
theorem unescapeFrom_flatMap_escapeChar {mark : Char} (isMark : mark = '\'' ∨ mark = '"') (s : List Char)
    (column : Nat) : unescapeFrom column (s.flatMap (escapeChar mark)) = .ok s := by
  induction s generalizing column with
  | nil => rw [List.flatMap_nil, unescapeFrom]
  | cons c s induction =>
      obtain ⟨column', read⟩ := unescapeFrom_escapeChar isMark c (s.flatMap (escapeChar mark)) column
      rw [List.flatMap_cons, read, induction column']
      rfl

theorem quoteMark_cases (s : List Char) : quoteMark s = '\'' ∨ quoteMark s = '"' := by
  rw [quoteMark]
  split
  · exact .inr rfl
  · exact .inl rfl

end Stencil.Text
