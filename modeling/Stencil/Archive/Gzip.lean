import Stencil.Archive.Inflate

/-!
# Compressed archives

A compressed archive is a sequence of parts.  Each has a header, compressed bytes, and the checksum and
number of the bytes they stand for.  Zeros may follow a part.
-/

namespace Stencil.Archive

/-- One bit of the checksum: the value is halved, and the bit that is lost counts as the polynomial. -/
def checksumStep (value : UInt32) : UInt32 :=
  if value &&& 1 = 1 then (value >>> 1) ^^^ 0xEDB88320 else value >>> 1

/-- The checksum behind one more byte. -/
def checksumByte (value : UInt32) (b : UInt8) : UInt32 :=
  (List.range 8).foldl (fun value _ => checksumStep value) (value ^^^ b.toUInt32)

/-- The checksum of bytes. -/
def checksum (bytes : Bytes) : UInt32 :=
  bytes.foldl checksumByte 0xFFFFFFFF ^^^ 0xFFFFFFFF

/-- The number that bytes spell, the lowest first. -/
def littleEndian (bytes : Bytes) : Nat :=
  bytes.foldr (fun b n => b.toNat + 256 * n) 0

/-- The bytes behind the first `count`, when there are as many. -/
def skip? (count : Nat) (bytes : Bytes) : Option Bytes :=
  if bytes.length < count then none else some (bytes.drop count)

/-- The bytes behind the first zero. -/
def skipText (bytes : Bytes) : Bytes :=
  (bytes.dropWhile (· ≠ 0)).tail

/-- The bytes behind a field that is there only if its flag is set. -/
def skipIf (flags : UInt8) (bit : Nat) (field : Bytes → Option Bytes) (bytes : Bytes) : Option Bytes :=
  if flags.toNat.testBit bit then field bytes else some bytes

/-- The bytes behind the header of a part. -/
def skipHeader? : Bytes → Option Bytes
  | 0x1F :: 0x8B :: 8 :: flags :: _ :: _ :: _ :: _ :: _ :: _ :: rest => do
    let rest ← skipIf flags 2 (fun bytes => skip? (2 + littleEndian (bytes.take 2)) bytes) rest
    let rest ← skipIf flags 3 (some ∘ skipText) rest
    let rest ← skipIf flags 4 (some ∘ skipText) rest
    skipIf flags 1 (skip? 2) rest
  | _ => none

/-- The bytes that a part stands for, and the bytes behind it. -/
def readPart? (bytes : Bytes) : Option (Bytes × Bytes) := do
  let (content, rest) ← inflate (← skipHeader? bytes)
  let behind ← skip? 8 rest
  if littleEndian (rest.take 4) = (checksum content).toNat ∧
      littleEndian ((rest.drop 4).take 4) = content.length % 4294967296 then
    some (content, behind.dropWhile (· = 0))
  else none

/-- Reads parts up to the end; each takes at least one byte. -/
def readParts? : (steps : Nat) → Bytes → Option Bytes
  | _, [] => some []
  | 0, _ :: _ => none
  | steps + 1, bytes => do
    let (content, rest) ← readPart? bytes
    (readParts? steps rest).map (content ++ ·)

/-- The bytes that a compressed archive stands for. -/
def decompress? (bytes : Bytes) : Option Bytes :=
  readParts? bytes.length bytes

end Stencil.Archive
