import Stencil.Text.Utf8

/-!
# Compressed bytes

Bytes are compressed as a sequence of blocks.  A block holds bytes as they are, or symbols of a code whose
lengths it may bring along; a symbol is a byte, the end of the block, or a stretch of bytes that were read
before.  The bits of a byte come from its lowest to its highest.
-/

namespace Stencil.Archive

/-- The bits of a byte. -/
def byteBits (b : UInt8) : List Bool :=
  (List.range 8).map b.toNat.testBit

/-- The bits of bytes. -/
def bitsOf (bytes : Bytes) : List Bool :=
  bytes.flatMap byteBits

/-- The number that the next bits spell, the lowest bit first, and the bits behind them. -/
def takeNumber? : (width : Nat) → List Bool → Option (Nat × List Bool)
  | 0, bits => some (0, bits)
  | _ + 1, [] => none
  | width + 1, bit :: bits =>
    (takeNumber? width bits).map fun (n, rest) => (2 * n + bit.toNat, rest)

/-- A code in which shorter words come before longer ones, and words of one length in the order of their
symbols. -/
structure Code where
  /-- How many words there are of each length from one on. -/
  counts : List Nat
  /-- The symbols in the order of their words. -/
  symbols : Array Nat

namespace Code

/-- The length of the longest words. -/
def longestWord : Nat := 15

/-- The code with a word of the given length for each symbol; symbols of length zero have none. -/
def ofLengths (lengths : List Nat) : Code where
  counts := (List.range longestWord).map fun i => lengths.count (i + 1)
  symbols := ((List.range longestWord).flatMap fun i =>
    lengths.zipIdx.filterMap fun (length, symbol) => if length = i + 1 then some symbol else none).toArray

/-- How many words of the greatest length are missing; a negative number of words is too many. -/
def missing (lengths : List Nat) : Int :=
  (ofLengths lengths).counts.foldl (fun (left : Int) (count : Nat) => 2 * left - count) 1

/-- The code of lengths that leave no word unused. -/
def full? (lengths : List Nat) : Option Code :=
  if missing lengths = 0 then some (ofLengths lengths) else none

/-- The code of lengths that leave no word unused, or that have no word or one of one bit. -/
def usable? (lengths : List Nat) : Option Code :=
  if missing lengths = 0 ∨ 0 < missing lengths ∧ lengths.all (· ≤ 1) then some (ofLengths lengths) else none

/-- Reads on in a word: `first` is the least word of the length read so far, `index` the place of its symbol,
`word` the bits read. -/
def readFrom (symbols : Array Nat) : (counts : List Nat) → (word first index : Nat) → List Bool →
    Option (Nat × List Bool)
  | [], _, _, _, _ => none
  | _ :: _, _, _, _, [] => none
  | count :: counts, word, first, index, bit :: bits =>
    let word := 2 * word + bit.toNat
    let first := 2 * first
    if word < first + count then (symbols[index + (word - first)]?).map (·, bits)
    else readFrom symbols counts word (first + count) (index + count) bits

/-- The next symbol and the bits behind its word. -/
def read (code : Code) (bits : List Bool) : Option (Nat × List Bool) :=
  readFrom code.symbols code.counts 0 0 0 bits

end Code

/-- The least length of each kind of stretch, and how many bits add to it. -/
def stretchLengths : List (Nat × Nat) := [
  (3, 0), (4, 0), (5, 0), (6, 0), (7, 0), (8, 0), (9, 0), (10, 0), (11, 1), (13, 1), (15, 1), (17, 1),
  (19, 2), (23, 2), (27, 2), (31, 2), (35, 3), (43, 3), (51, 3), (59, 3), (67, 4), (83, 4), (99, 4),
  (115, 4), (131, 5), (163, 5), (195, 5), (227, 5), (258, 0)]

/-- The least distance of each kind of stretch, and how many bits add to it. -/
def stretchDistances : List (Nat × Nat) := [
  (1, 0), (2, 0), (3, 0), (4, 0), (5, 1), (7, 1), (9, 2), (13, 2), (17, 3), (25, 3), (33, 4), (49, 4),
  (65, 5), (97, 5), (129, 6), (193, 6), (257, 7), (385, 7), (513, 8), (769, 8), (1025, 9), (1537, 9),
  (2049, 10), (3073, 10), (4097, 11), (6145, 11), (8193, 12), (12289, 12), (16385, 13), (24577, 13)]

/-- The number of a kind, with the bits that add to it read. -/
def readExtended (table : List (Nat × Nat)) (kind : Nat) (bits : List Bool) : Option (Nat × List Bool) := do
  let (least, width) ← table[kind]?
  let (more, bits) ← takeNumber? width bits
  some (least + more, bits)

/-- Copies a number of bytes one by one from a distance back. -/
def copyBack (distance : Nat) : (length : Nat) → Array UInt8 → Array UInt8
  | 0, out => out
  | length + 1, out => copyBack distance length (out.push (out.getD (out.size - distance) 0))

/-- The symbol that ends a block. -/
def endOfBlock : Nat := 256

/-- Reads the symbols of a block up to its end.  Each symbol takes at least one bit, so that the number of
bits bounds the number of steps. -/
def readSymbols (literals distances : Code) : (steps : Nat) → List Bool → Array UInt8 →
    Option (List Bool × Array UInt8)
  | 0, _, _ => none
  | steps + 1, bits, out => do
    let (symbol, bits) ← literals.read bits
    if symbol < endOfBlock then readSymbols literals distances steps bits (out.push (UInt8.ofNat symbol))
    else if symbol = endOfBlock then some (bits, out)
    else
      let (length, bits) ← readExtended stretchLengths (symbol - endOfBlock - 1) bits
      let (kind, bits) ← distances.read bits
      let (distance, bits) ← readExtended stretchDistances kind bits
      if out.size < distance then none
      else readSymbols literals distances steps bits (copyBack distance length out)

/-- The lengths of the words for symbols in blocks that bring no code along. -/
def fixedLengths : List Nat :=
  List.replicate 144 8 ++ List.replicate 112 9 ++ List.replicate 24 7 ++ List.replicate 8 8

/-- The lengths of the words for distances in blocks that bring no code along. -/
def fixedDistances : List Nat :=
  List.replicate 30 5

/-- The order in which the lengths of the code for lengths are written. -/
def lengthOrder : List Nat :=
  [16, 17, 18, 0, 8, 7, 9, 6, 10, 5, 11, 4, 12, 3, 13, 2, 14, 1, 15]

/-- Reads a number of lengths of three bits each. -/
def readShortLengths : (count : Nat) → List Bool → Option (List Nat × List Bool)
  | 0, bits => some ([], bits)
  | count + 1, bits => do
    let (length, bits) ← takeNumber? 3 bits
    let (more, bits) ← readShortLengths count bits
    some (length :: more, bits)

/-- Reads lengths until there are `count` of them; those read so far come last first. -/
def readLengths (code : Code) (count : Nat) : (steps : Nat) → (read : List Nat) → List Bool →
    Option (List Nat × List Bool)
  | 0, _, _ => none
  | steps + 1, read, bits =>
    if count ≤ read.length then if count < read.length then none else some (read.reverse, bits)
    else do
      let (symbol, bits) ← code.read bits
      match symbol with
      | 16 =>
        let last ← read.head?
        let (more, bits) ← takeNumber? 2 bits
        readLengths code count steps (List.replicate (3 + more) last ++ read) bits
      | 17 =>
        let (more, bits) ← takeNumber? 3 bits
        readLengths code count steps (List.replicate (3 + more) 0 ++ read) bits
      | 18 =>
        let (more, bits) ← takeNumber? 7 bits
        readLengths code count steps (List.replicate (11 + more) 0 ++ read) bits
      | length => readLengths code count steps (length :: read) bits

/-- The most symbols that a block may bring words for. -/
def mostSymbols : Nat := 286

/-- The most distances that a block may bring words for. -/
def mostDistances : Nat := 30

/-- Reads the two codes that a block brings along. -/
def readCodes (bits : List Bool) : Option (Code × Code × List Bool) := do
  let (symbols, bits) ← takeNumber? 5 bits
  let (distances, bits) ← takeNumber? 5 bits
  let (shorts, bits) ← takeNumber? 4 bits
  let symbols := symbols + endOfBlock + 1
  let distances := distances + 1
  if mostSymbols < symbols ∨ mostDistances < distances then none
  else
    let (given, bits) ← readShortLengths (shorts + 4) bits
    let ordered := lengthOrder.zip given
    let lengths ← Code.full? ((List.range lengthOrder.length).map fun symbol => (ordered.lookup symbol).getD 0)
    let (all, bits) ← readLengths lengths (symbols + distances) (symbols + distances + 1) [] bits
    if all.getD endOfBlock 0 = 0 then none
    else
      let literals ← Code.usable? (all.take symbols)
      let distances ← Code.usable? (all.drop symbols)
      some (literals, distances, bits)

/-- The bits from the next byte on. -/
def nextByte (bits : List Bool) : List Bool :=
  bits.drop (bits.length % 8)

/-- Reads a number of bytes. -/
def readBytes : (count : Nat) → List Bool → Array UInt8 → Option (List Bool × Array UInt8)
  | 0, bits, out => some (bits, out)
  | count + 1, bits, out => do
    let (b, bits) ← takeNumber? 8 bits
    readBytes count bits (out.push (UInt8.ofNat b))

/-- Reads a block of bytes as they are; their number is written twice, the second time with its bits turned. -/
def readStored (bits : List Bool) (out : Array UInt8) : Option (List Bool × Array UInt8) := do
  let (count, bits) ← takeNumber? 16 (nextByte bits)
  let (turned, bits) ← takeNumber? 16 bits
  if count + turned = 65535 then readBytes count bits out else none

/-- Reads blocks up to the last one; each takes at least one bit. -/
def readBlocks : (steps : Nat) → List Bool → Array UInt8 → Option (List Bool × Array UInt8)
  | 0, _, _ => none
  | steps + 1, bits, out => do
    let (last, bits) ← takeNumber? 1 bits
    let (kind, bits) ← takeNumber? 2 bits
    let (bits, out) ← match kind with
      | 0 => readStored bits out
      | 1 => readSymbols (.ofLengths fixedLengths) (.ofLengths fixedDistances) bits.length bits out
      | 2 => do
        let (literals, distances, bits) ← readCodes bits
        readSymbols literals distances bits.length bits out
      | _ => none
    if last = 1 then some (bits, out) else readBlocks steps bits out

/-- The bytes that compressed bytes stand for, and the bytes behind the last block. -/
def inflate (bytes : Bytes) : Option (Bytes × Bytes) :=
  (readBlocks (8 * bytes.length) (bitsOf bytes) #[]).map fun (bits, out) =>
    (out.toList, bytes.drop (bytes.length - bits.length / 8))

end Stencil.Archive
