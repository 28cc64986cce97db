import Stencil.Text.Hex

/-!
# Text as bytes

The eight-bit encoding of text, its strict reading, and the texts of its refusals.  Reading refuses the
first byte sequence that no character is written with: overlong forms, surrogates and codes beyond the
last character are all refused at the earliest byte that shows them.
-/

namespace Stencil

/-- A sequence of bytes. -/
abbrev Bytes := List UInt8

namespace Text.Utf8

/-- The byte of a value below 256. -/
def byte (n : Nat) : UInt8 :=
  UInt8.ofNat n

/-- The bytes of one character. -/
def encodeChar (c : Char) : Bytes :=
  let n := c.toNat
  if n < 0x80 then [byte n]
  else if n < 0x800 then [byte (0xC0 + n / 0x40), byte (0x80 + n % 0x40)]
  else if n < 0x10000 then
    [byte (0xE0 + n / 0x1000), byte (0x80 + n / 0x40 % 0x40), byte (0x80 + n % 0x40)]
  else
    [byte (0xF0 + n / 0x40000), byte (0x80 + n / 0x1000 % 0x40), byte (0x80 + n / 0x40 % 0x40),
      byte (0x80 + n % 0x40)]

/-- The bytes of a text. -/
def encode (s : List Char) : Bytes :=
  s.flatMap encodeChar

/-- Why bytes are not text. -/
inductive Reason
  /-- A byte that begins no character. -/
  | invalidStart
  /-- A byte that does not continue the character begun before it. -/
  | invalidContinuation
  /-- The bytes end within a character. -/
  | unexpectedEnd
deriving DecidableEq, Repr

/-- The wording of a reason. -/
def Reason.message : Reason → String
  | .invalidStart => "invalid start byte"
  | .invalidContinuation => "invalid continuation byte"
  | .unexpectedEnd => "unexpected end of data"

/-- A stretch of bytes that is not text. -/
structure Fault where
  /-- Why the bytes are refused. -/
  reason : Reason
  /-- The offset of the first refused byte. -/
  start : Nat
  /-- The offset after the last refused byte. -/
  stop : Nat
  /-- The first refused byte. -/
  first : UInt8
deriving DecidableEq, Repr

/-- Whether a byte continues a character. -/
def isContinuation (b : UInt8) : Bool :=
  0x80 ≤ b && b < 0xC0

/-- Whether the second byte of a longer character rules it out: overlong, surrogate or too large. -/
def isRuledOut (lead second : UInt8) : Bool :=
  !isContinuation second || (lead == 0xE0 && second < 0xA0) || (lead == 0xED && 0xA0 ≤ second) ||
    (lead == 0xF0 && second < 0x90) || (lead == 0xF4 && 0x90 ≤ second)

/-- The payload bits of a continuation byte. -/
def payload (b : UInt8) : Nat :=
  b.toNat % 0x40

/-- The result of reading one character at the head of a sequence of bytes. -/
inductive Head
  /-- A character that `width` bytes are written for. -/
  | char (c : Char) (width : Nat)
  /-- A refusal of the first `width` bytes. -/
  | refused (reason : Reason) (width : Nat)

/-- Reads one character behind its lead byte; `rest` follows the lead byte. -/
def readHead (lead : UInt8) (rest : Bytes) : Head :=
  if lead < 0x80 then .char (Char.ofNat lead.toNat) 1
  else if lead < 0xC2 || 0xF4 < lead then .refused .invalidStart 1
  else if lead < 0xE0 then
    match rest with
    | [] => .refused .unexpectedEnd 1
    | b :: _ =>
      if isContinuation b then .char (Char.ofNat (lead.toNat % 0x20 * 0x40 + payload b)) 2
      else .refused .invalidContinuation 1
  else if lead < 0xF0 then
    match rest with
    | [] => .refused .unexpectedEnd 1
    | b :: rest =>
      if isRuledOut lead b then .refused .invalidContinuation 1
      else
        match rest with
        | [] => .refused .unexpectedEnd 2
        | c :: _ =>
          if isContinuation c then
            .char (Char.ofNat (lead.toNat % 0x10 * 0x1000 + payload b * 0x40 + payload c)) 3
          else .refused .invalidContinuation 2
  else
    match rest with
    | [] => .refused .unexpectedEnd 1
    | b :: rest =>
      if isRuledOut lead b then .refused .invalidContinuation 1
      else
        match rest with
        | [] => .refused .unexpectedEnd 2
        | c :: rest =>
          if isContinuation c then
            match rest with
            | [] => .refused .unexpectedEnd 3
            | d :: _ =>
              if isContinuation d then
                .char (Char.ofNat (lead.toNat % 0x08 * 0x40000 + payload b * 0x1000 + payload c * 0x40 +
                  payload d)) 4
              else .refused .invalidContinuation 3
          else .refused .invalidContinuation 2

/-- Reads the bytes from `offset` on. -/
def decodeFrom (offset : Nat) (bytes : Bytes) : Except Fault (List Char) :=
  match bytes with
  | [] => .ok []
  | lead :: rest =>
    match readHead lead rest with
    | .char c width => (decodeFrom (offset + width) (rest.drop (width - 1))).map (c :: ·)
    | .refused reason width => .error ⟨reason, offset, offset + width, lead⟩
termination_by bytes.length
decreasing_by
  simp only [List.length_drop, List.length_cons]
  omega

/-- The text that bytes are written for. -/
def decode (bytes : Bytes) : Except Fault (List Char) :=
  decodeFrom 0 bytes

/-- The text of bytes of which some may be no text: each refused stretch counts as one replacement character. -/
def decodeLoosely (bytes : Bytes) : List Char :=
  match bytes with
  | [] => []
  | lead :: rest =>
    match readHead lead rest with
    | .char c width => c :: decodeLoosely (rest.drop (width - 1))
    | .refused _ width => '\uFFFD' :: decodeLoosely (rest.drop (width - 1))
termination_by bytes.length
decreasing_by
  all_goals
    simp only [List.length_drop, List.length_cons]
    omega

/-- The wording of a refusal. -/
def Fault.message (fault : Fault) : String :=
  let number (n : Nat) : String := String.ofList (digits 10 n)
  let place :=
    if fault.stop = fault.start + 1 then
      "byte 0x" ++ String.ofList (hexPadded 2 fault.first.toNat) ++ " in position " ++ number fault.start
    else "bytes in position " ++ number fault.start ++ "-" ++ number (fault.stop - 1)
  "'utf-8' codec can't decode " ++ place ++ ": " ++ fault.reason.message

/-- A refusal as it shows when text is read piece by piece: bytes that the end cuts off are the last piece. -/
def Fault.inPieces (fault : Fault) : Fault :=
  match fault.reason with
  | .unexpectedEnd => { fault with start := 0, stop := fault.stop - fault.start }
  | _ => fault

/-- The number of bytes of a string. -/
def size (s : String) : Nat :=
  (encode s.toList).length

end Text.Utf8

end Stencil
