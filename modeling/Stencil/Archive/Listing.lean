import Stencil.Archive.Header

/-!
# Listings

An archive is a sequence of members.  A member is announced by a header, before which headers that only
describe it may stand; its content follows in whole blocks.  A listing holds the members in order and says
how the archive ends.
-/

namespace Stencil.Archive

/-- Attributes that replace fields of headers. -/
structure Attributes where
  /-- The name. -/
  path : Option (List Char) := none
  /-- The number of bytes of the content. -/
  size : Option Int := none
deriving Repr

namespace Attributes

/-- Attributes with others that count before them. -/
def merge (first later : Attributes) : Attributes :=
  ⟨later.path.or first.path, later.size.or first.size⟩

/-- Puts one attribute into its place; attributes that do not matter are passed over. -/
def set (a : Attributes) (keyword value : Bytes) : Attributes :=
  if looseText keyword = "path".toList then { a with path := some (dropSlashes (looseText value)) }
  else if looseText keyword = "size".toList then
    { a with size := some ((Text.readWhole? 10 (looseText value)).getD 0) }
  else a

end Attributes

/-- Whether a byte is a decimal digit. -/
def isDigitByte (b : UInt8) : Bool :=
  0x30 ≤ b && b ≤ 0x39

/-- The number that decimal digits spell. -/
def digitsValue (digits : Bytes) : Nat :=
  digits.foldl (fun n b => 10 * n + (b.toNat - 0x30)) 0

/-- One record of attributes: its number of bytes, a blank, a keyword, an equals sign, a value and a line
end.  The record and the bytes behind it. -/
def readRecord? (bytes : Bytes) : Option ((Bytes × Bytes) × Bytes) :=
  let digits := bytes.takeWhile isDigitByte
  let length := digitsValue digits
  let body := (bytes.take (length - 1)).drop (digits.length + 1)
  let keyword := body.takeWhile (· ≠ 0x3D)
  if digits.isEmpty || 20 < digits.length || bytes[digits.length]? ≠ some 0x20 then none
  else if length < 5 || bytes.length < length then none
  else if keyword.isEmpty || keyword.length = body.length || bytes[length - 1]? ≠ some 0x0A then none
  else some ((keyword, body.drop (keyword.length + 1)), bytes.drop (max length 1))

theorem readRecord?_length_lt {bytes rest : Bytes} {record : Bytes × Bytes}
    (read : readRecord? bytes = some (record, rest)) : rest.length < bytes.length := by
  unfold readRecord? at read
  simp only at read
  split at read
  · simp at read
  · rename_i present
    split at read
    · simp at read
    · split at read
      · simp at read
      · cases bytes with
        | nil => simp at present
        | cons b bytes =>
          simp only [Option.some.injEq, Prod.mk.injEq] at read
          rw [← read.2, List.length_drop, List.length_cons]
          omega

/-- The attributes in the records of a header, which end at the first zero. -/
def readRecords? (given : Attributes) (bytes : Bytes) : Option Attributes :=
  match bytes with
  | [] => some given
  | b :: rest =>
    if b = 0 then some given
    else
      match _read : readRecord? (b :: rest) with
      | none => none
      | some ((keyword, value), rest) => readRecords? (given.set keyword value) rest
termination_by bytes.length
decreasing_by exact readRecord?_length_lt _read

/-- A number of bytes filled up to whole blocks. -/
def wholeBlocks (size : Int) : Int :=
  (size + (blockSize - 1)) / blockSize * blockSize

/-- A member that its headers announce. -/
structure Announced where
  /-- Its header, with the attributes that hold for it. -/
  header : Header
  /-- How far behind its header the next one stands. -/
  extent : Int
  /-- The attributes that hold for all members that follow. -/
  shared : Attributes
  /-- The bytes behind its header. -/
  rest : Bytes
  /-- The stretches of its content that are there; without them all of it is. -/
  stretches : Option (List Stretch) := none

namespace Announced

/-- A member with attributes. -/
def withAttributes (a : Announced) (given : Attributes) : Announced :=
  { a with header := { a.header with
      name := given.path.getD a.header.name
      size := given.size.getD a.header.size } }

/-- A member whose name came before its header. -/
def withName (a : Announced) (name : List Char) : Announced :=
  let name := if a.header.kind = .directory ∧ name.getLast? = some '/' then name.dropLast else name
  { a with header := { a.header with name } }

/-- A member that takes as many blocks as its size says. -/
def withOwnExtent (a : Announced) : Announced :=
  { a with extent := if a.header.kind.hasContent then wholeBlocks a.header.size else 0 }

/-- The member that a header announces by itself. -/
def ofHeader (header : Header) (shared : Attributes) (rest : Bytes) : Announced :=
  let extent := if header.kind.hasContent then wholeBlocks header.size else 0
  let announced := { header, extent, shared, rest : Announced }.withAttributes shared
  if header.kind = .directory then
    { announced with header := { announced.header with name := dropSlashes announced.header.name } }
  else announced

/-- The member that a header with a layout announces; its size is the one with the zeros. -/
def ofLayout (header : Header) (layout : Layout) (shared : Attributes) (rest : Bytes) : Announced where
  header := { header with size := layout.size }
  extent := wholeBlocks header.size
  shared := shared
  rest := rest
  stretches := some layout.stretches

end Announced

/-- A layout with all blocks that describe it, and the bytes behind them. -/
def completeLayout : (steps : Nat) → Layout → Bytes → Except LayoutFault (Layout × Bytes)
  | 0, layout, bytes => if layout.continued then .error .cut else .ok (layout, bytes)
  | steps + 1, layout, bytes =>
    if layout.continued then do
      let layout ← layout.extend (bytes.take blockSize)
      completeLayout steps layout (bytes.drop blockSize)
    else .ok (layout, bytes)

/-- Lets a fault behind a header that describes a member count as a failure to announce it. -/
def describing (next : Except HeaderFault Announced) : Except HeaderFault Announced :=
  next.mapError fun
    | .cutLayout => .cutLayout
    | _ => .unfinished

/-- The next member, with the attributes that hold for all members so far. -/
def announce (shared : Attributes) (bytes : Bytes) : Except HeaderFault Announced :=
  if _present : bytes.length < blockSize then .error .damaged
  else
    match Header.ofBlock (bytes.take blockSize) with
    | .error fault => .error fault
    | .ok header =>
      let size := (wholeBlocks header.size).toNat
      let behind := bytes.drop blockSize
      let described := behind.take size
      match header.kind with
      | .longName =>
        (describing (announce shared (behind.drop size))).map (·.withName (looseText (textBytes described)))
      | .longTarget => describing (announce shared (behind.drop size))
      | .sharedAttributes =>
        match readRecords? shared described with
        | none => .error .damaged
        | some shared => describing (announce shared (behind.drop size))
      | .attributes =>
        match readRecords? shared described with
        | none => .error .damaged
        | some given =>
          (describing (announce shared (behind.drop size))).map fun announced =>
            let announced := announced.withAttributes given
            if given.size.isSome then announced.withOwnExtent else announced
      | _ =>
        match header.layout with
        | none => .ok (.ofHeader header shared behind)
        | some layout =>
          match completeLayout (behind.length / blockSize + 1) layout behind with
          | .ok (layout, rest) => .ok (.ofLayout header layout shared rest)
          | .error .damaged => .error .damaged
          | .error .cut => .error .cutLayout
termination_by bytes.length
decreasing_by
  all_goals
    simp only [List.length_drop, blockSize] at *
    omega

/-- What a member of an archive is. -/
inductive MemberKind
  /-- A file. -/
  | file
  /-- A directory. -/
  | directory
  /-- Anything else. -/
  | other
deriving DecidableEq, Repr

/-- What a member of an archive is, by its header. -/
def Kind.memberKind : Kind → MemberKind
  | .file => .file
  | .directory => .directory
  | _ => .other

/-- A member of an archive. -/
structure Member where
  /-- Its name. -/
  name : List Char
  /-- Who may use it. -/
  mode : Int
  /-- What it is. -/
  kind : MemberKind
  /-- The bytes of its content that are there. -/
  content : Bytes := []
  /-- Whether all bytes of its content are there. -/
  isWhole : Bool := true
deriving Repr

/-- The name of the member that holds only attributes of the archive. -/
def metadataName : List Char :=
  "pax_global_header".toList

/-- Whether a member holds only attributes of the archive. -/
def Member.isMetadata (m : Member) : Bool :=
  m.name = metadataName

/-- How an archive ends. -/
inductive Ending
  /-- Behind a member, with or without a mark. -/
  | closed
  /-- Within a member, or in the middle of nowhere. -/
  | damaged
  /-- Within the layout of a member. -/
  | cutLayout
deriving DecidableEq, Repr

/-- What an archive holds. -/
structure Listing where
  /-- The members in order. -/
  members : List Member
  /-- How the archive ends. -/
  ending : Ending
deriving Repr

/-- Whether the content of a member is read when it is unpacked. -/
def Member.isRead (m : Member) : Bool :=
  m.kind = .file && !m.isMetadata

/-- Content with its zeros, and the number of bytes of the archive up to the last one that it takes. -/
structure Spread where
  /-- The content as far as it is there. -/
  content : Bytes := []
  /-- The bytes taken. -/
  taken : Nat := 0

/-- Fills content up to a size: what stands in front of a stretch is zeros, and what is there already is not
taken again.  `place` is where the stretch stands among the bytes. -/
def Spread.fill (size : Nat) (bytes : Bytes) : (place : Nat) → List Stretch → Spread → Spread
  | _, [], s => { s with content := s.content ++ List.replicate (size - s.content.length) 0 }
  | place, stretch :: rest, s =>
    let content := s.content ++ List.replicate (min size stretch.start - s.content.length) 0
    let passed := content.length - stretch.start
    let wanted := min (stretch.length - passed) (size - content.length)
    let found := (bytes.drop (place + passed)).take wanted
    if wanted = 0 then fill size bytes (place + stretch.length) rest { s with content }
    else if found.length < wanted then ⟨content ++ found, place + passed + found.length⟩
    else fill size bytes (place + stretch.length) rest ⟨content ++ found, place + passed + wanted⟩

/-- The content of a member, with its zeros. -/
def Announced.spread (a : Announced) : Spread :=
  let size := a.header.size.toNat
  match a.stretches with
  | none => ⟨a.rest.take size, size⟩
  | some stretches => Spread.fill size a.rest 0 stretches {}

/-- The member that was announced. -/
def Announced.toMember (a : Announced) : Member where
  name := a.header.name
  mode := a.header.mode
  kind := a.header.kind.memberKind
  content := a.spread.content
  isWhole := a.header.size ≤ a.spread.content.length

/-- A listing with one more member in front. -/
def Listing.cons (m : Member) (l : Listing) : Listing :=
  { l with members := m :: l.members }

/-- The members of an archive of `total` bytes from a place on; at most `steps` of them.  An archive is closed
once its next header is no header, and also where the next header would stand at its very beginning; it is
damaged if nothing could be read at all, if a header would stand before bytes that were read, and if there
is no byte in front of the next header. -/
def readMembers (total : Nat) : (steps : Nat) → (first : Bool) → Attributes → Bytes → Listing
  | 0, _, _, _ => ⟨[], .closed⟩
  | steps + 1, first, shared, bytes =>
    match announce shared bytes with
    | .error .unfinished => ⟨[], .damaged⟩
    | .error .cutLayout => ⟨[], .cutLayout⟩
    | .error .endMark => ⟨[], .closed⟩
    | .error .damaged => ⟨[], if first then .damaged else .closed⟩
    | .ok announced =>
      let m := announced.toMember
      let read : Int := if m.isRead then announced.spread.taken else 0
      let start : Int := total - announced.rest.length
      if m.isRead && !m.isWhole then ⟨[m], .damaged⟩
      else if announced.extent ≠ read ∧ start + announced.extent = 0 then ⟨[m], .closed⟩
      else if announced.extent < read ∨ announced.rest.length < announced.extent then ⟨[m], .damaged⟩
      else
        (readMembers total steps false announced.shared (announced.rest.drop announced.extent.toNat)).cons m

/-- The listing of an archive; each member takes at least one block. -/
def list (bytes : Bytes) : Listing :=
  readMembers bytes.length (bytes.length / blockSize + 1) true {} bytes

end Stencil.Archive
