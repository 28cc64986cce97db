import Mathlib
import Stencil.Archive.Gzip

/-!
# Bytes stored as they are

Bytes that fit in one block have a compressed form that holds them as they are.
-/

namespace Stencil.Archive

/-! ## Numbers -/

/-- The lowest bytes of a number, the lowest first. -/
def lowFirst : (count : Nat) → Nat → Bytes
  | 0, _ => []
  | count + 1, n => UInt8.ofNat n :: lowFirst count (n / 256)

theorem length_lowFirst (count n : Nat) : (lowFirst count n).length = count := by
  induction count generalizing n with
  | zero => rfl
  | succ count induction => rw [lowFirst, List.length_cons, induction]

theorem littleEndian_cons (b : UInt8) (bytes : Bytes) :
    littleEndian (b :: bytes) = b.toNat + 256 * littleEndian bytes := rfl

theorem littleEndian_lowFirst {count n : Nat} (small : n < 256 ^ count) :
    littleEndian (lowFirst count n) = n := by
  induction count generalizing n with
  | zero =>
      rw [Nat.pow_zero] at small
      rw [lowFirst, littleEndian, List.foldr_nil]
      omega
  | succ count induction =>
      have less : n / 256 < 256 ^ count := by
        rw [Nat.pow_succ] at small
        omega
      rw [lowFirst, littleEndian_cons, induction less, UInt8.toNat_ofNat']
      omega

/-! ## Bits -/

/-- The number that bits spell, the lowest bit first. -/
def spelled (bits : List Bool) : Nat :=
  bits.foldr (fun bit n => 2 * n + bit.toNat) 0

theorem takeNumber?_append (bits rest : List Bool) :
    takeNumber? bits.length (bits ++ rest) = some (spelled bits, rest) := by
  induction bits with
  | nil => rfl
  | cons bit bits induction =>
      rw [List.length_cons, List.cons_append, takeNumber?, induction]
      rfl

theorem spelled_append (bits more : List Bool) :
    spelled (bits ++ more) = spelled bits + 2 ^ bits.length * spelled more := by
  induction bits with
  | nil => simp [spelled]
  | cons bit bits induction =>
      have front (bits : List Bool) : spelled (bit :: bits) = 2 * spelled bits + bit.toNat := rfl
      rw [List.cons_append, front, front, induction, List.length_cons, Nat.pow_succ, Nat.mul_add]
      have power : 2 ^ bits.length * 2 * spelled more = 2 * (2 ^ bits.length * spelled more) := by
        rw [Nat.mul_comm (2 ^ bits.length) 2, Nat.mul_assoc]
      omega

theorem length_byteBits (b : UInt8) : (byteBits b).length = 8 := by
  simp [byteBits]

theorem spelled_byteBits (b : UInt8) : spelled (byteBits b) = b.toNat := by
  have spells : ∀ n < 256, spelled ((List.range 8).map (Nat.testBit n)) = n := by decide +kernel
  exact spells b.toNat b.toNat_lt

theorem bitsOf_cons (b : UInt8) (bytes : Bytes) : bitsOf (b :: bytes) = byteBits b ++ bitsOf bytes := by
  rw [bitsOf, List.flatMap_cons, bitsOf]

theorem bitsOf_append (bytes more : Bytes) : bitsOf (bytes ++ more) = bitsOf bytes ++ bitsOf more := by
  rw [bitsOf, List.flatMap_append, bitsOf, bitsOf]

theorem length_bitsOf (bytes : Bytes) : (bitsOf bytes).length = 8 * bytes.length := by
  induction bytes with
  | nil => rfl
  | cons b bytes induction =>
      rw [bitsOf_cons, List.length_append, induction, length_byteBits, List.length_cons]
      omega

theorem spelled_bitsOf (bytes : Bytes) : spelled (bitsOf bytes) = littleEndian bytes := by
  induction bytes with
  | nil => rfl
  | cons b bytes induction =>
      rw [bitsOf_cons, spelled_append, spelled_byteBits, length_byteBits, induction]
      rfl

theorem takeNumber?_bitsOf (bytes : Bytes) (rest : List Bool) {width : Nat} (all : width = 8 * bytes.length) :
    takeNumber? width (bitsOf bytes ++ rest) = some (littleEndian bytes, rest) := by
  rw [all, ← length_bitsOf, takeNumber?_append, spelled_bitsOf]

/-! ## Blocks -/

theorem readBytes_bitsOf (bytes : Bytes) (rest : List Bool) (out : Array UInt8) :
    readBytes bytes.length (bitsOf bytes ++ rest) out = some (rest, out ++ bytes) := by
  induction bytes generalizing out with
  | nil => simp [readBytes, bitsOf]
  | cons b bytes induction =>
      have one : takeNumber? 8 (bitsOf [b] ++ (bitsOf bytes ++ rest)) = some (b.toNat, bitsOf bytes ++ rest) :=
        takeNumber?_bitsOf [b] _ rfl
      have first : bitsOf [b] = byteBits b := by rw [bitsOf, List.flatMap_singleton]
      rw [first] at one
      rw [List.length_cons, bitsOf_cons, List.append_assoc, readBytes, one]
      simp [induction]

/-- A block that holds bytes as they are, and is the last one. -/
def storedBlock (bytes : Bytes) : Bytes :=
  1 :: (lowFirst 2 bytes.length ++ lowFirst 2 (65535 - bytes.length)) ++ bytes

/-- The number of bytes is written twice behind what is left of the byte in front. -/
theorem readStored_bitsOf {bytes : Bytes} (short : bytes.length < 65536) (rest : Bytes) :
    readStored ([false, false, false, false, false] ++
      bitsOf (lowFirst 2 bytes.length ++ lowFirst 2 (65535 - bytes.length) ++ bytes ++ rest)) #[] =
      some (bitsOf rest, (#[] : Array UInt8) ++ bytes) := by
  have count (more : List Bool) : takeNumber? 16 (bitsOf (lowFirst 2 bytes.length) ++ more) =
      some (bytes.length, more) := by
    rw [takeNumber?_bitsOf _ _ (by rw [length_lowFirst]), littleEndian_lowFirst (by omega)]
  have turned (more : List Bool) : takeNumber? 16 (bitsOf (lowFirst 2 (65535 - bytes.length)) ++ more) =
      some (65535 - bytes.length, more) := by
    rw [takeNumber?_bitsOf _ _ (by rw [length_lowFirst]), littleEndian_lowFirst (by omega)]
  have aligned (more : Bytes) :
      nextByte ([false, false, false, false, false] ++ bitsOf more) = bitsOf more := by
    have left : ([false, false, false, false, false] ++ bitsOf more).length % 8 = 5 := by
      rw [List.length_append, length_bitsOf]
      simp
    rw [nextByte, left]
    rfl
  have sum : bytes.length + (65535 - bytes.length) = 65535 := by omega
  rw [readStored, aligned]
  simp only [bitsOf_append, List.append_assoc, count, turned, Option.bind_eq_bind, Option.bind_some, sum, if_true,
    readBytes_bitsOf]

theorem inflate_storedBlock {bytes : Bytes} (short : bytes.length < 65536) (rest : Bytes) :
    inflate (storedBlock bytes ++ rest) = some (bytes, rest) := by
  have bits : bitsOf (storedBlock bytes ++ rest) = true :: false :: false :: ([false, false, false, false, false] ++
      bitsOf (lowFirst 2 bytes.length ++ lowFirst 2 (65535 - bytes.length) ++ bytes ++ rest)) := by
    rw [storedBlock, List.cons_append, List.cons_append, bitsOf_cons]
    rfl
  have length : (storedBlock bytes ++ rest).length = 5 + bytes.length + rest.length := by
    simp [storedBlock, length_lowFirst]
    omega
  have read : readBlocks (8 * (storedBlock bytes ++ rest).length) (bitsOf (storedBlock bytes ++ rest)) #[] =
      some (bitsOf rest, (#[] : Array UInt8) ++ bytes) := by
    obtain ⟨steps, same⟩ : ∃ steps, 8 * (storedBlock bytes ++ rest).length = steps + 1 :=
      ⟨8 * (storedBlock bytes ++ rest).length - 1, by omega⟩
    rw [same, bits, readBlocks]
    simp only [takeNumber?, Option.map_some, Option.bind_eq_bind, Option.bind_some, Bool.toNat_true,
      Bool.toNat_false, readStored_bitsOf short]
    rfl
  have behind : (storedBlock bytes ++ rest).length - (bitsOf rest).length / 8 = (storedBlock bytes).length := by
    rw [length_bitsOf, List.length_append]
    omega
  rw [inflate, read, Option.map_some]
  simp only [behind, List.drop_left]
  simp

/-- A compressed form of bytes: one part with one block. -/
def store (bytes : Bytes) : Bytes :=
  [0x1F, 0x8B, 8, 0, 0, 0, 0, 0, 0, 0xFF] ++ (storedBlock bytes ++
    (lowFirst 4 (checksum bytes).toNat ++ lowFirst 4 bytes.length))

/-- Bytes that fit in one block are read back from their compressed form. -/
theorem decompress?_store {bytes : Bytes} (short : bytes.length < 65536) :
    decompress? (store bytes) = some bytes := by
  have sum : littleEndian (lowFirst 4 (checksum bytes).toNat) = (checksum bytes).toNat :=
    littleEndian_lowFirst (checksum bytes).toNat_lt
  have count : littleEndian (lowFirst 4 bytes.length) = bytes.length := littleEndian_lowFirst (by omega)
  have header (rest : Bytes) : skipHeader? ([0x1F, 0x8B, 8, 0, 0, 0, 0, 0, 0, 0xFF] ++ rest) = some rest := rfl
  have part : readPart? (store bytes) = some (bytes, []) := by
    rw [readPart?, store, header]
    simp only [Option.bind_eq_bind, Option.bind_some, inflate_storedBlock short]
    have first : (lowFirst 4 (checksum bytes).toNat ++ lowFirst 4 bytes.length).take 4 =
        lowFirst 4 (checksum bytes).toNat := List.take_left' (length_lowFirst _ _)
    have second : (lowFirst 4 (checksum bytes).toNat ++ lowFirst 4 bytes.length).drop 4 =
        lowFirst 4 bytes.length := List.drop_left' (length_lowFirst _ _)
    have behind : skip? 8 (lowFirst 4 (checksum bytes).toNat ++ lowFirst 4 bytes.length) = some [] := by
      simp [skip?, length_lowFirst]
    have last : (lowFirst 4 bytes.length).take 4 = lowFirst 4 bytes.length :=
      List.take_of_length_le (Nat.le_of_eq (length_lowFirst _ _))
    rw [behind, Option.bind_some, first, second, last, sum, count, if_pos ⟨rfl, by omega⟩]
    rfl
  have some : store bytes = 0x1F :: (store bytes).tail := rfl
  obtain ⟨steps, same⟩ : ∃ steps, (store bytes).length = steps + 1 := ⟨(store bytes).tail.length, rfl⟩
  rw [decompress?, same, some, readParts?, ← some, part]
  · simp [readParts?]
  · nofun

end Stencil.Archive
