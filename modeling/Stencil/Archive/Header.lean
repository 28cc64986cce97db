import Stencil.Disk.Path
import Stencil.Text.Utf8
import Stencil.Text.Whole

/-!
# Headers of archives

Each member of an archive begins with a block of fields: its name, its mode, its size and its kind.  The sum
of the bytes of the block is one of the fields, so that damage shows.
-/

namespace Stencil.Archive

/-- The number of bytes of a block. -/
def blockSize : Nat := 512

/-- The bytes of a text field. -/
def textBytes (field : Bytes) : Bytes :=
  field.takeWhile (· ≠ 0)

/-- Reads text from an offset on; bytes that are no text count as a replacement character. -/
def looseText (bytes : Bytes) : List Char :=
  match bytes with
  | [] => []
  | lead :: rest =>
    match Text.Utf8.readHead lead rest with
    | .char c width => c :: looseText (rest.drop (width - 1))
    | .refused _ _ => '\uFFFD' :: looseText rest
termination_by bytes.length
decreasing_by
  · simp only [List.length_drop, List.length_cons]
    omega
  · simp

/-- The number that bytes spell, the highest first. -/
def bigEndian (bytes : Bytes) : Nat :=
  bytes.foldl (fun n b => 256 * n + b.toNat) 0

/-- The number in a field: octal digits, or bytes behind a mark. -/
def readField? (field : Bytes) : Option Int :=
  match field with
  | 0x80 :: rest => some (bigEndian rest)
  | 0xFF :: rest => some (bigEndian rest - Nat.pow 256 rest.length)
  | field =>
    let text := textBytes field
    if text.all (· < 0x80) then
      match Text.trim (text.map fun b => Char.ofNat b.toNat) with
      | [] => some 0
      | digits => Text.readWhole? 8 digits
    else none

/-- The bytes of a block from one offset to another. -/
def slice (block : Bytes) (start stop : Nat) : Bytes :=
  (block.drop start).take (stop - start)

/-- A byte as a signed number. -/
def signedByte (b : UInt8) : Int :=
  if b < 0x80 then b.toNat else b.toNat - 256

/-- Whether a number is the sum of a block, in which the sum itself counts as blanks; bytes may count as
signed numbers. -/
def isSum (block : Bytes) (sum : Int) : Bool :=
  let counted := block.take 148 ++ block.drop 156
  let blanks : Int := 8 * 32
  sum = counted.foldl (fun n b => n + (b.toNat : Int)) blanks || sum = counted.foldl (fun n b => n + signedByte b) blanks

/-- A stretch of the content of a file that is in the archive.  What lies between stretches is zeros, and the
archive leaves it out. -/
structure Stretch where
  /-- Where it stands in the content. -/
  start : Nat
  /-- Its number of bytes. -/
  length : Nat
deriving DecidableEq, Repr

/-- Why the layout of a file is not read. -/
inductive LayoutFault
  /-- A field is no number. -/
  | damaged
  /-- A block ends before a field. -/
  | cut
deriving DecidableEq, Repr

/-- The number in a field of a block that may end before it. -/
def readPresent (block : Bytes) (start stop : Nat) : Except LayoutFault Int :=
  let field := slice block start stop
  if field.isEmpty then .error .cut
  else
    match readField? field with
    | some n => .ok n
    | none => .error .damaged

/-- The stretches that a number of fields at an offset describe. -/
def readStretches (block : Bytes) : (count offset : Nat) → Except LayoutFault (List Stretch)
  | 0, _ => .ok []
  | count + 1, offset => do
    let start ← readPresent block offset (offset + 12)
    let length ← readPresent block (offset + 12) (offset + 24)
    let rest ← readStretches block count (offset + 24)
    return ⟨start.toNat, length.toNat⟩ :: rest

/-- The content of a file with zeros left out. -/
structure Layout where
  /-- The stretches that are there. -/
  stretches : List Stretch
  /-- Whether another block describes more of them. -/
  continued : Bool
  /-- The number of bytes with the zeros. -/
  size : Int
deriving Repr

/-- The layout in a header. -/
def Layout.ofBlock? (block : Bytes) : Option Layout := do
  let stretches ← (readStretches block 4 386).toOption
  let size ← readField? (slice block 483 495)
  return ⟨stretches, block.getD 482 0 ≠ 0, size⟩

/-- A layout with what the next block describes. -/
def Layout.extend (l : Layout) (block : Bytes) : Except LayoutFault Layout := do
  let more ← readStretches block 21 0
  let given := more.filter fun s => s.start ≠ 0 ∧ s.length ≠ 0
  match (block[504]? : Option UInt8) with
  | some mark => return { l with stretches := l.stretches ++ given, continued := mark ≠ 0 }
  | none => throw .cut

/-- What a header announces. -/
inductive Kind
  /-- A file. -/
  | file
  /-- A directory. -/
  | directory
  /-- A link or a device, which has no content. -/
  | special
  /-- Something of a kind that is not known, with content. -/
  | unknown
  /-- The name of the next member. -/
  | longName
  /-- The target of the next member, which is a link. -/
  | longTarget
  /-- Attributes of the next member. -/
  | attributes
  /-- Attributes of all members that follow. -/
  | sharedAttributes
deriving DecidableEq, Repr

/-- The kind that a letter means. -/
def Kind.ofLetter (letter : UInt8) : Kind :=
  match Char.ofNat letter.toNat with
  | '\x00' | '0' | '7' | 'S' => .file
  | '5' => .directory
  | '1' | '2' | '3' | '4' | '6' => .special
  | 'L' => .longName
  | 'K' => .longTarget
  | 'x' | 'X' => .attributes
  | 'g' => .sharedAttributes
  | _ => .unknown

/-- Whether the content of members of a kind is in the archive. -/
def Kind.hasContent : Kind → Bool
  | .file | .unknown => true
  | _ => false

/-- The fields of a header that matter. -/
structure Header where
  /-- The name. -/
  name : List Char
  /-- Who may use the member. -/
  mode : Int
  /-- The number of bytes of the content. -/
  size : Int
  /-- What the header announces. -/
  kind : Kind
  /-- The layout of the content, if zeros of it are left out. -/
  layout : Option Layout := none
deriving Repr

/-- Why no header is read. -/
inductive HeaderFault
  /-- The block is the mark behind the last member. -/
  | endMark
  /-- The block is missing, cut short or damaged. -/
  | damaged
  /-- What the header announces does not come. -/
  | unfinished
  /-- The blocks that describe the layout of a file end too early. -/
  | cutLayout
deriving DecidableEq, Repr

/-- A name without slashes at its end. -/
def dropSlashes (name : List Char) : List Char :=
  (name.reverse.dropWhile (· = '/')).reverse

/-- The kind of a member; the oldest way to announce a directory is a slash behind the name of a file. -/
def kindOf (letter : UInt8) (name : List Char) : Kind :=
  if letter = 0 ∧ name.getLast? = some '/' then .directory else .ofLetter letter

/-- Whether names of a kind are never continued in front. -/
def isUndivided (letter : UInt8) : Bool :=
  letter = 0x4B || letter = 0x4C || letter = 0x53

/-- The name in a header, to which a second field may give the directories in front. -/
def nameOf (block : Bytes) (letter : UInt8) (kind : Kind) : List Char :=
  let name := looseText (textBytes (slice block 0 100))
  let name := if kind = .directory then dropSlashes name else name
  let directories := looseText (textBytes (slice block 345 500))
  if directories.isEmpty || isUndivided letter then name else directories ++ '/' :: name

/-- The number fields of a header, each from one offset to another. -/
def numberFields : List (Nat × Nat) :=
  [(100, 108), (108, 116), (116, 124), (124, 136), (136, 148), (148, 156), (329, 337), (337, 345)]

/-- The header in a block. -/
def Header.ofBlock (block : Bytes) : Except HeaderFault Header :=
  if block.length ≠ blockSize then .error .damaged
  else if block.all (· = 0) then .error .endMark
  else
    match numberFields.mapM fun (start, stop) => readField? (slice block start stop) with
    | some [mode, _, _, size, _, sum, _, _] =>
      if isSum block sum then
        let letter := block.getD 156 0
        let kind := kindOf letter (looseText (textBytes (slice block 0 100)))
        let header : Header := { name := nameOf block letter kind, mode, size, kind }
        if letter ≠ 0x53 then .ok header
        else
          match Layout.ofBlock? block with
          | some layout => .ok { header with layout }
          | none => .error .damaged
      else .error .damaged
    | _ => .error .damaged

end Stencil.Archive
