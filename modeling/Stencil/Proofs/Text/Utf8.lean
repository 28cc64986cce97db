import Stencil.Text.Utf8

/-!
# Reading back the bytes of text

Bytes are read as a text exactly if they are what this text is written with.
-/

namespace Stencil.Text.Utf8

theorem byte_eq_iff {n : Nat} {b : UInt8} (small : n < 256) : byte n = b ↔ n = b.toNat := by
  rw [← UInt8.toNat_inj]
  simp [byte, Nat.mod_eq_of_lt small]

theorem toNat_ofNat {n : Nat} (valid : n.isValidChar) : (Char.ofNat n).toNat = n := by
  rw [Char.ofNat, dif_pos valid]
  rfl

/-! ## One character -/

section Widths

variable {n : Nat}

theorem encodeChar_one (high : n < 0x80) : encodeChar (Char.ofNat n) = [byte n] := by
  rw [encodeChar, toNat_ofNat (.inl (by omega)), if_pos high]

theorem encodeChar_two (low : 0x80 ≤ n) (high : n < 0x800) :
    encodeChar (Char.ofNat n) = [byte (0xC0 + n / 0x40), byte (0x80 + n % 0x40)] := by
  rw [encodeChar, toNat_ofNat (.inl (by omega)), if_neg (by omega), if_pos high]

theorem encodeChar_three (low : 0x800 ≤ n) (high : n < 0x10000) (valid : n.isValidChar) :
    encodeChar (Char.ofNat n) =
      [byte (0xE0 + n / 0x1000), byte (0x80 + n / 0x40 % 0x40), byte (0x80 + n % 0x40)] := by
  rw [encodeChar, toNat_ofNat valid, if_neg (by omega), if_neg (by omega), if_pos high]

theorem encodeChar_four (low : 0x10000 ≤ n) (high : n < 0x110000) :
    encodeChar (Char.ofNat n) = [byte (0xF0 + n / 0x40000), byte (0x80 + n / 0x1000 % 0x40),
      byte (0x80 + n / 0x40 % 0x40), byte (0x80 + n % 0x40)] := by
  rw [encodeChar, toNat_ofNat (.inr ⟨by omega, high⟩), if_neg (by omega), if_neg (by omega),
    if_neg (by omega)]

end Widths

theorem isContinuation_iff {b : UInt8} : isContinuation b = true ↔ 0x80 ≤ b.toNat ∧ b.toNat < 0xC0 := by
  simp [isContinuation, UInt8.le_iff_toNat_le, UInt8.lt_iff_toNat_lt]

/-- Which second bytes go with the first byte of a longer character. -/
theorem isRuledOut_eq_false_iff {lead second : UInt8} :
    isRuledOut lead second = false ↔
      0x80 ≤ second.toNat ∧ second.toNat < 0xC0 ∧ (lead.toNat = 0xE0 → 0xA0 ≤ second.toNat) ∧
        (lead.toNat = 0xED → second.toNat < 0xA0) ∧ (lead.toNat = 0xF0 → 0x90 ≤ second.toNat) ∧
        (lead.toNat = 0xF4 → second.toNat < 0x90) := by
  simp only [isRuledOut, Bool.or_eq_false_iff, Bool.and_eq_false_iff, Bool.not_eq_false', isContinuation_iff,
    beq_eq_false_iff_ne, decide_eq_false_iff_not, ne_eq, ← UInt8.toNat_inj, UInt8.lt_iff_toNat_lt,
    UInt8.le_iff_toNat_le, UInt8.reduceToNat]
  omega

/-- A byte that continues a character stands for the bits that it holds. -/
theorem payload_of_continuation {b : UInt8} (continues : isContinuation b = true) :
    payload b < 0x40 ∧ b.toNat = 0x80 + payload b := by
  rw [isContinuation_iff] at continues
  unfold payload
  omega

/-! ## The bytes read as one character -/

section Read

variable {a b c d : UInt8}

theorem encodeChar_two_bytes (low : 0xC2 ≤ a.toNat) (high : a.toNat < 0xE0)
    (continues : isContinuation b = true) :
    encodeChar (Char.ofNat (a.toNat % 0x20 * 0x40 + payload b)) = [a, b] := by
  obtain ⟨small, bits⟩ := payload_of_continuation continues
  generalize code : a.toNat % 0x20 * 0x40 + payload b = n
  have first : byte (0xC0 + n / 0x40) = a := (byte_eq_iff (by omega)).mpr (by omega)
  have second : byte (0x80 + n % 0x40) = b := (byte_eq_iff (by omega)).mpr (by omega)
  rw [encodeChar_two (by omega) (by omega), first, second]

theorem encodeChar_three_bytes (low : 0xE0 ≤ a.toNat) (high : a.toNat < 0xF0)
    (allowed : isRuledOut a b = false) (continues : isContinuation c = true) :
    encodeChar (Char.ofNat (a.toNat % 0x10 * 0x1000 + payload b * 0x40 + payload c)) = [a, b, c] := by
  rw [isRuledOut_eq_false_iff] at allowed
  obtain ⟨smallB, bitsB⟩ := payload_of_continuation (isContinuation_iff.mpr ⟨allowed.1, allowed.2.1⟩)
  obtain ⟨smallC, bitsC⟩ := payload_of_continuation continues
  generalize code : a.toNat % 0x10 * 0x1000 + payload b * 0x40 + payload c = n
  have first : byte (0xE0 + n / 0x1000) = a := (byte_eq_iff (by omega)).mpr (by omega)
  have second : byte (0x80 + n / 0x40 % 0x40) = b := (byte_eq_iff (by omega)).mpr (by omega)
  have third : byte (0x80 + n % 0x40) = c := (byte_eq_iff (by omega)).mpr (by omega)
  -- the second byte keeps the code out of the range of the surrogates
  have valid : n.isValidChar := by
    unfold Nat.isValidChar
    omega
  rw [encodeChar_three (by omega) (by omega) valid, first, second, third]

theorem encodeChar_four_bytes (low : 0xF0 ≤ a.toNat) (high : a.toNat ≤ 0xF4)
    (allowed : isRuledOut a b = false) (continues : isContinuation c = true)
    (ends : isContinuation d = true) :
    encodeChar (Char.ofNat
      (a.toNat % 0x08 * 0x40000 + payload b * 0x1000 + payload c * 0x40 + payload d)) = [a, b, c, d] := by
  rw [isRuledOut_eq_false_iff] at allowed
  obtain ⟨smallB, bitsB⟩ := payload_of_continuation (isContinuation_iff.mpr ⟨allowed.1, allowed.2.1⟩)
  obtain ⟨smallC, bitsC⟩ := payload_of_continuation continues
  obtain ⟨smallD, bitsD⟩ := payload_of_continuation ends
  generalize code : a.toNat % 0x08 * 0x40000 + payload b * 0x1000 + payload c * 0x40 + payload d = n
  have first : byte (0xF0 + n / 0x40000) = a := (byte_eq_iff (by omega)).mpr (by omega)
  have second : byte (0x80 + n / 0x1000 % 0x40) = b := (byte_eq_iff (by omega)).mpr (by omega)
  have third : byte (0x80 + n / 0x40 % 0x40) = c := (byte_eq_iff (by omega)).mpr (by omega)
  have fourth : byte (0x80 + n % 0x40) = d := (byte_eq_iff (by omega)).mpr (by omega)
  rw [encodeChar_four (by omega) (by omega), first, second, third, fourth]

end Read

/-- What is read as a character is what this character is written with. -/
theorem encodeChar_of_readHead {lead : UInt8} {rest : Bytes} {c : Char} {width : Nat}
    (read : readHead lead rest = .char c width) :
    encodeChar c ++ rest.drop (width - 1) = lead :: rest := by
  unfold readHead at read
  simp only [UInt8.lt_iff_toNat_lt, UInt8.reduceToNat, Bool.or_eq_true, decide_eq_true_eq] at read
  split at read
  case isTrue ascii =>
    cases read
    simp [encodeChar_one ascii, byte]
  case isFalse ascii =>
  split at read
  case isTrue => cases read
  case isFalse starts =>
  split at read
  case isTrue two =>
    split at read
    case h_1 => cases read
    case h_2 second rest =>
    split at read
    case isFalse => cases read
    case isTrue continues =>
    cases read
    rw [encodeChar_two_bytes (by omega) two continues]
    rfl
  case isFalse longer =>
  split at read
  case isTrue three =>
    split at read
    case h_1 => cases read
    case h_2 second rest =>
    split at read
    case isTrue => cases read
    case isFalse allowed =>
    split at read
    case h_1 => cases read
    case h_2 third rest =>
    split at read
    case isFalse => cases read
    case isTrue continues =>
    cases read
    rw [encodeChar_three_bytes (by omega) three (by simpa using allowed) continues]
    rfl
  case isFalse four =>
  split at read
  case h_1 => cases read
  case h_2 second rest =>
  split at read
  case isTrue => cases read
  case isFalse allowed =>
  split at read
  case h_1 => cases read
  case h_2 third rest =>
  split at read
  case isFalse => cases read
  case isTrue continues =>
  split at read
  case h_1 => cases read
  case h_2 fourth rest =>
  split at read
  case isFalse => cases read
  case isTrue ends =>
  cases read
  rw [encodeChar_four_bytes (by omega) (by omega) (by simpa using allowed) continues ends]
  rfl

/-! ## The bytes that a character is written with -/

theorem toNat_byte {n : Nat} (small : n < 256) : (byte n).toNat = n := by
  simp [byte, Nat.mod_eq_of_lt small]

theorem isContinuation_byte {n : Nat} (low : 0x80 ≤ n) (high : n < 0xC0) : isContinuation (byte n) = true := by
  rw [isContinuation_iff, toNat_byte (by omega)]
  exact ⟨low, high⟩

theorem payload_byte {n : Nat} (small : n < 0x40) : payload (byte (0x80 + n)) = n := by
  rw [payload, toNat_byte (by omega)]
  omega

theorem readHead_one {n : Nat} (one : n < 0x80) (rest : Bytes) :
    readHead (byte n) rest = .char (Char.ofNat n) 1 := by
  simp [readHead, UInt8.lt_iff_toNat_lt, toNat_byte (show n < 256 by omega), one]

theorem readHead_two {n : Nat} (low : 0x80 ≤ n) (high : n < 0x800) (rest : Bytes) :
    readHead (byte (0xC0 + n / 0x40)) (byte (0x80 + n % 0x40) :: rest) = .char (Char.ofNat n) 2 := by
  have lead : (byte (0xC0 + n / 0x40)).toNat = 0xC0 + n / 0x40 := toNat_byte (by omega)
  have continues := isContinuation_byte (n := 0x80 + n % 0x40) (by omega) (by omega)
  have bits := payload_byte (n := n % 0x40) (by omega)
  have code : (0xC0 + n / 0x40) % 0x20 * 0x40 + n % 0x40 = n := by omega
  simp only [readHead, UInt8.lt_iff_toNat_lt, UInt8.reduceToNat, lead, continues, bits, code, Bool.or_eq_true,
    decide_eq_true_eq, if_true]
  rw [if_neg (by omega), if_neg (by omega), if_pos (by omega)]

theorem readHead_three {n : Nat} (low : 0x800 ≤ n) (high : n < 0x10000) (valid : n.isValidChar) (rest : Bytes) :
    readHead (byte (0xE0 + n / 0x1000)) (byte (0x80 + n / 0x40 % 0x40) :: byte (0x80 + n % 0x40) :: rest) =
      .char (Char.ofNat n) 3 := by
  have lead : (byte (0xE0 + n / 0x1000)).toNat = 0xE0 + n / 0x1000 := toNat_byte (by omega)
  have second : (byte (0x80 + n / 0x40 % 0x40)).toNat = 0x80 + n / 0x40 % 0x40 := toNat_byte (by omega)
  have allowed : isRuledOut (byte (0xE0 + n / 0x1000)) (byte (0x80 + n / 0x40 % 0x40)) = false := by
    unfold Nat.isValidChar at valid
    rw [isRuledOut_eq_false_iff, lead, second]
    omega
  have continues := isContinuation_byte (n := 0x80 + n % 0x40) (by omega) (by omega)
  have middle := payload_byte (n := n / 0x40 % 0x40) (by omega)
  have bits := payload_byte (n := n % 0x40) (by omega)
  have code : (0xE0 + n / 0x1000) % 0x10 * 0x1000 + n / 0x40 % 0x40 * 0x40 + n % 0x40 = n := by omega
  simp only [readHead, UInt8.lt_iff_toNat_lt, UInt8.reduceToNat, lead, allowed, continues, middle, bits, code,
    Bool.or_eq_true, decide_eq_true_eq, if_true, Bool.false_eq_true, if_false]
  rw [if_neg (by omega), if_neg (by omega), if_neg (by omega), if_pos (by omega)]

theorem readHead_four {n : Nat} (low : 0x10000 ≤ n) (high : n < 0x110000) (rest : Bytes) :
    readHead (byte (0xF0 + n / 0x40000))
        (byte (0x80 + n / 0x1000 % 0x40) :: byte (0x80 + n / 0x40 % 0x40) :: byte (0x80 + n % 0x40) :: rest) =
      .char (Char.ofNat n) 4 := by
  have lead : (byte (0xF0 + n / 0x40000)).toNat = 0xF0 + n / 0x40000 := toNat_byte (by omega)
  have second : (byte (0x80 + n / 0x1000 % 0x40)).toNat = 0x80 + n / 0x1000 % 0x40 := toNat_byte (by omega)
  have allowed : isRuledOut (byte (0xF0 + n / 0x40000)) (byte (0x80 + n / 0x1000 % 0x40)) = false := by
    rw [isRuledOut_eq_false_iff, lead, second]
    omega
  have continues := isContinuation_byte (n := 0x80 + n / 0x40 % 0x40) (by omega) (by omega)
  have ends := isContinuation_byte (n := 0x80 + n % 0x40) (by omega) (by omega)
  have upper := payload_byte (n := n / 0x1000 % 0x40) (by omega)
  have middle := payload_byte (n := n / 0x40 % 0x40) (by omega)
  have bits := payload_byte (n := n % 0x40) (by omega)
  have code : (0xF0 + n / 0x40000) % 0x08 * 0x40000 + n / 0x1000 % 0x40 * 0x1000 +
      n / 0x40 % 0x40 * 0x40 + n % 0x40 = n := by omega
  simp only [readHead, UInt8.lt_iff_toNat_lt, UInt8.reduceToNat, lead, allowed, continues, ends, upper, middle,
    bits, code, Bool.or_eq_true, decide_eq_true_eq, if_true, Bool.false_eq_true, if_false]
  rw [if_neg (by omega), if_neg (by omega), if_neg (by omega), if_neg (by omega)]

/-- A character is read from the bytes that it is written with, whatever follows them. -/
theorem exists_readHead_encodeChar (c : Char) (rest : Bytes) :
    ∃ lead tail, encodeChar c = lead :: tail ∧
      readHead lead (tail ++ rest) = .char c (tail.length + 1) := by
  obtain ⟨n, valid, rfl⟩ : ∃ n : Nat, n.isValidChar ∧ Char.ofNat n = c := ⟨c.toNat, c.valid, Char.ofNat_toNat c⟩
  have bounded : n < 0x110000 := by
    have within := valid
    unfold Nat.isValidChar at within
    omega
  by_cases one : n < 0x80
  · exact ⟨_, _, encodeChar_one one, readHead_one one _⟩
  by_cases two : n < 0x800
  · exact ⟨_, _, encodeChar_two (by omega) two, readHead_two (by omega) two _⟩
  by_cases three : n < 0x10000
  · exact ⟨_, _, encodeChar_three (by omega) three valid, readHead_three (by omega) three valid _⟩
  · exact ⟨_, _, encodeChar_four (by omega) bounded, readHead_four (by omega) bounded _⟩

/-! ## A whole text -/

theorem encode_cons (c : Char) (text : List Char) : encode (c :: text) = encodeChar c ++ encode text := by
  rw [encode, List.flatMap_cons, encode]

theorem encode_append (text text' : List Char) : encode (text ++ text') = encode text ++ encode text' := by
  rw [encode, List.flatMap_append, encode, encode]

theorem length_encode_pos {text : List Char} (some : text ≠ []) : 0 < (encode text).length := by
  cases text with
  | nil => exact absurd rfl some
  | cons c text =>
    obtain ⟨lead, tail, written, -⟩ := exists_readHead_encodeChar c []
    rw [encode_cons, written]
    simp

theorem length_encode_le {text text' : List Char} (early : text <+: text') :
    (encode text).length ≤ (encode text').length := by
  obtain ⟨rest, rfl⟩ := early
  rw [encode_append, List.length_append]
  exact Nat.le_add_right _ _

theorem decodeFrom_encode (text : List Char) (offset : Nat) : decodeFrom offset (encode text) = .ok text := by
  induction text generalizing offset with
  | nil => rw [encode, List.flatMap_nil, decodeFrom]
  | cons c text ih =>
    obtain ⟨lead, tail, written, read⟩ := exists_readHead_encodeChar c (encode text)
    rw [encode_cons, written, List.cons_append, decodeFrom, read]
    simp only [Nat.add_sub_cancel, List.drop_left, ih]
    rfl

theorem encode_of_decodeFrom {offset : Nat} {bytes : Bytes} {text : List Char}
    (read : decodeFrom offset bytes = .ok text) : encode text = bytes := by
  induction offset, bytes using decodeFrom.induct generalizing text with
  | case1 offset =>
    rw [decodeFrom] at read
    cases read
    rfl
  | case2 offset lead rest c width head ih =>
    rw [decodeFrom, head] at read
    simp only at read
    cases below : decodeFrom (offset + width) (rest.drop (width - 1)) with
    | error fault =>
      rw [below] at read
      cases read
    | ok tail =>
      rw [below] at read
      cases read
      rw [encode_cons, ih below, encodeChar_of_readHead head]
  | case3 offset lead rest reason width head =>
    rw [decodeFrom, head] at read
    cases read

/-- Bytes are read as a text exactly if the text is written with them. -/
theorem decode_eq_ok_iff {bytes : Bytes} {text : List Char} :
    decode bytes = .ok text ↔ encode text = bytes := by
  constructor
  · exact encode_of_decodeFrom
  · rintro rfl
    exact decodeFrom_encode text 0

theorem encode_injective : Function.Injective encode := by
  intro text text' same
  have read := decode_eq_ok_iff.mpr same
  rw [decode_eq_ok_iff.mpr rfl] at read
  cases read
  rfl

end Stencil.Text.Utf8
