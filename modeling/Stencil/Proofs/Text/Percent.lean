import Stencil.Proofs.Text.Utf8
import Stencil.Text.Percent

/-!
# Reading addresses back

A text that is written as one segment of an address is read back from it, and what it is written with are plain
characters and escapes: nothing that ends a segment or begins another part of an address is among them.
-/

namespace Stencil.Text.Percent

/-- Whether a character is a digit of an escape. -/
def isEscapeDigit (c : Char) : Bool :=
  '0' ≤ c && c ≤ '9' || 'A' ≤ c && c ≤ 'F'

/-- The texts that are made of characters that stand for themselves and of escapes. -/
inductive IsSegment : List Char → Prop
  /-- The empty text. -/
  | nil : IsSegment []
  /-- A character that stands for itself. -/
  | plain {c : Char} {rest : List Char} (unreserved : isUnreserved c = true) (behind : IsSegment rest) :
    IsSegment (c :: rest)
  /-- A percent sign and two digits. -/
  | escape {high low : Char} {rest : List Char} (first : isEscapeDigit high = true)
    (second : isEscapeDigit low = true) (behind : IsSegment rest) : IsSegment ('%' :: high :: low :: rest)

/-- The byte at the head of a text that is written as an escape, and what follows it. -/
def escape? : List Char → Option (UInt8 × List Char)
  | '%' :: high :: low :: rest =>
    match hexValue? high, hexValue? low with
    | some high, some low => some (Utf8.byte (16 * high + low), rest)
    | _, _ => none
  | _ => none

theorem length_of_escape? {s rest : List Char} {b : UInt8} (found : escape? s = some (b, rest)) :
    rest.length < s.length := by
  unfold escape? at found
  split at found
  · split at found
    · cases found
      simp
      omega
    · cases found
  · cases found

/-- The bytes that a text in an address stands for: an escape stands for its byte, and every other character for its
own bytes. -/
def bytesOf (s : List Char) : Bytes :=
  match _found : escape? s with
  | some (b, rest) => b :: bytesOf rest
  | none =>
    match s with
    | [] => []
    | c :: rest => Utf8.encodeChar c ++ bytesOf rest
termination_by s.length
decreasing_by
  · exact length_of_escape? _found
  · simp

/-- The text that a text in an address stands for. -/
def decode (s : List Char) : Except Utf8.Fault (List Char) :=
  Utf8.decode (bytesOf s)

/-! ## Escapes -/

private theorem escapeDigit_facts : ∀ n < 16,
    isEscapeDigit (hexDigit n).toUpper = true ∧ hexValue? (hexDigit n).toUpper = some n := by
  decide

theorem escapeByte_eq (b : UInt8) :
    escapeByte b = ['%', (hexDigit (b.toNat / 16)).toUpper, (hexDigit (b.toNat % 16)).toUpper] := by
  have low := b.toNat_lt
  have small : b.toNat / 16 % 16 = b.toNat / 16 := Nat.mod_eq_of_lt (by omega)
  simp [escapeByte, hexPadded, small]

theorem escape?_escapeByte (b : UInt8) (rest : List Char) : escape? (escapeByte b ++ rest) = some (b, rest) := by
  have low := b.toNat_lt
  have high := (escapeDigit_facts (b.toNat / 16) (by omega)).2
  have low := (escapeDigit_facts (b.toNat % 16) (by omega)).2
  have same : Utf8.byte (16 * (b.toNat / 16) + b.toNat % 16) = b := (Utf8.byte_eq_iff (by omega)).mpr (by omega)
  rw [escapeByte_eq]
  simp [escape?, high, low, same]

theorem isSegment_escapeBytes (bytes : Bytes) {rest : List Char} (behind : IsSegment rest) :
    IsSegment (bytes.flatMap escapeByte ++ rest) := by
  induction bytes with
  | nil => exact behind
  | cons b bytes induction =>
      have low := b.toNat_lt
      rw [List.flatMap_cons, escapeByte_eq]
      exact .escape (escapeDigit_facts _ (by omega)).1 (escapeDigit_facts _ (by omega)).1 induction

theorem bytesOf_escapeByte (b : UInt8) (rest : List Char) : bytesOf (escapeByte b ++ rest) = b :: bytesOf rest := by
  rw [bytesOf]
  split
  · rename_i found
    rw [escape?_escapeByte] at found
    cases found
    rfl
  · rename_i found
    rw [escape?_escapeByte] at found
    cases found

theorem bytesOf_escapeBytes (bytes : Bytes) (rest : List Char) :
    bytesOf (bytes.flatMap escapeByte ++ rest) = bytes ++ bytesOf rest := by
  induction bytes with
  | nil => rfl
  | cons b bytes induction =>
      rw [List.flatMap_cons, List.append_assoc, bytesOf_escapeByte, induction, List.cons_append]

/-! ## Characters that stand for themselves -/

theorem ne_percent_of_isUnreserved {c : Char} (unreserved : isUnreserved c = true) : c ≠ '%' := by
  rintro rfl
  cases unreserved

theorem bytesOf_plain {c : Char} (unreserved : isUnreserved c = true) (rest : List Char) :
    bytesOf (c :: rest) = Utf8.encodeChar c ++ bytesOf rest := by
  have other := ne_percent_of_isUnreserved unreserved
  have unescaped : escape? (c :: rest) = none := by
    unfold escape?
    split
    · rename_i same
      exact absurd (List.cons.inj same).1 other
    · rfl
  rw [bytesOf]
  split
  · rename_i found
    rw [unescaped] at found
    cases found
  · rfl

/-! ## Whole texts -/

theorem encode_cons (c : Char) (s : List Char) : encode (c :: s) = encodeChar c ++ encode s := by
  rw [encode, List.flatMap_cons, encode]

theorem isSegment_encode (s : List Char) : IsSegment (encode s) := by
  induction s with
  | nil => exact .nil
  | cons c s induction =>
      rw [encode_cons, encodeChar]
      split
      · rename_i unreserved
        exact .plain unreserved induction
      · exact isSegment_escapeBytes _ induction

theorem bytesOf_encode (s : List Char) : bytesOf (encode s) = Utf8.encode s := by
  induction s with
  | nil => rw [encode, List.flatMap_nil, bytesOf]; rfl
  | cons c s induction =>
      rw [encode_cons, encodeChar, Utf8.encode_cons, ← induction]
      split
      · rename_i unreserved
        exact bytesOf_plain unreserved _
      · exact bytesOf_escapeBytes _ _

/-- A text is read back from the segment that it is written as. -/
theorem decode_encode (s : List Char) : decode (encode s) = .ok s := by
  rw [decode, bytesOf_encode]
  exact Utf8.decode_eq_ok_iff.mpr rfl

theorem isUnreserved_of_isEscapeDigit {c : Char} (digit : isEscapeDigit c = true) : isUnreserved c = true := by
  have alphanumeric : c.isAlphanum = true := by
    simp only [isEscapeDigit, Bool.or_eq_true, Bool.and_eq_true, decide_eq_true_eq, Char.le_def] at digit
    rcases digit with ⟨low, high⟩ | ⟨low, high⟩
    · have isDigit : c.isDigit = true := Bool.and_eq_true_iff.mpr ⟨decide_eq_true low, decide_eq_true high⟩
      exact Bool.or_eq_true_iff.mpr (.inr isDigit)
    · have below : c.val ≤ 'Z'.val := UInt32.le_trans high (by decide)
      have isUpper : c.isUpper = true := decide_eq_true ⟨low, below⟩
      have isAlpha : c.isAlpha = true := Bool.or_eq_true_iff.mpr (.inl isUpper)
      exact Bool.or_eq_true_iff.mpr (.inl isAlpha)
  rw [isUnreserved, alphanumeric]
  rfl

/-- Every character of a segment stands for itself or is a percent sign. -/
theorem IsSegment.isUnreserved_of_mem {s : List Char} (segment : IsSegment s) {c : Char} (known : c ∈ s)
    (other : c ≠ '%') : isUnreserved c = true := by
  induction segment with
  | nil => cases known
  | plain unreserved _ induction =>
      rcases List.mem_cons.mp known with rfl | behind
      · exact unreserved
      · exact induction behind
  | escape first second _ induction =>
      rcases List.mem_cons.mp known with rfl | known
      · exact absurd rfl other
      rcases List.mem_cons.mp known with rfl | known
      · exact isUnreserved_of_isEscapeDigit first
      rcases List.mem_cons.mp known with rfl | behind
      · exact isUnreserved_of_isEscapeDigit second
      · exact induction behind

end Stencil.Text.Percent
