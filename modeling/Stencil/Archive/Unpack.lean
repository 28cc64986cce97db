import Stencil.Archive.Gzip
import Stencil.Archive.Listing
import Stencil.Work

/-!
# Unpacking

The members of an archive are made one after the other below a directory.  A member whose name leads, or
whose place lies, outside the directory stops the work; links and devices are passed over.
-/

namespace Stencil.Archive

/-- Why a member is not made. -/
inductive RefusalReason
  /-- It has no name, or one that no file can have. -/
  | invalidName
  /-- Its name begins at the root. -/
  | absolute
  /-- Its name leads to a directory above. -/
  | leadsAbove
  /-- Links that are there take its name outside the directory. -/
  | outside
deriving DecidableEq, Repr

/-- The wording of a reason. -/
def RefusalReason.message : RefusalReason → String
  | .invalidName => "empty or invalid member name"
  | .absolute => "absolute paths are not allowed"
  | .leadsAbove => "parent directory references are not allowed"
  | .outside => "resolves outside the destination directory"

/-- Why an archive is not unpacked. -/
inductive UnpackFault
  /-- The bytes are no compressed archive. -/
  | notCompressed
  /-- The archive is damaged. -/
  | damaged
  /-- The archive ends within the layout of a member. -/
  | cutLayout
  /-- The archive has no members. -/
  | empty
  /-- A member may not be made. -/
  | refusedMember (name : List Char) (reason : RefusalReason)
  /-- An operation on the disk was stopped. -/
  | disk (fault : Disk.Fault)
deriving Repr

/-- The wording of a failure to unpack. -/
def UnpackFault.message : UnpackFault → String
  | .notCompressed => "Template archive is not valid gzip data"
  | .damaged => "Malformed template archive"
  | .cutLayout => "index out of range"
  | .empty => "Template archive contains no entries"
  | .refusedMember name reason => "Refusing to extract '" ++ String.ofList name ++ "': " ++ reason.message
  | .disk fault => "Failed to extract template archive: " ++ fault.message

/-- Whether a failure to unpack is not the fault of the template. -/
def UnpackFault.escapes : UnpackFault → Bool
  | .cutLayout => true
  | _ => false

/-- Why the member of a name may not be made below a directory, if it may not. -/
def refusalReason? (disk : Disk) (destination name : List Char) : Option RefusalReason :=
  if name.isEmpty || name.contains '\x00' then some .invalidName
  else if Disk.isAbsolute name then some .absolute
  else if (Disk.segments name).contains Disk.above then some .leadsAbove
  else if disk.staysWithin destination (Disk.below destination (Disk.segments name)) then none
  else some .outside

/-- The bits of the mode of a member that are kept. -/
def keptMode (mode : Int) : Nat :=
  (mode % 0o1000).toNat

/-- The mode of the directory of a member; its owner may always use it. -/
def directoryModeOf (m : Member) : Nat :=
  keptMode m.mode ||| 0o700

/-- The mode of the file of a member; its owner may always read and write it. -/
def fileModeOf (m : Member) : Nat :=
  keptMode m.mode ||| 0o600

/-- The number of bytes that are copied at once. -/
def chunkSize : Nat := 65536

/-- The bytes of complete chunks at the head of bytes. -/
def wholeChunks (bytes : Bytes) : Bytes :=
  bytes.take (bytes.length / chunkSize * chunkSize)

/-- Makes the directory of a member. -/
def writeDirectory (m : Member) (target : List Char) : Disk.Change Unit := do
  Disk.ensureDirectories target
  Disk.changeMode target (directoryModeOf m)

/-- Makes the file of a member, with the chunks of its content that are there. -/
def writeMember (m : Member) (target : List Char) : Disk.Change Unit := do
  Disk.ensureDirectories (Disk.parent target)
  if m.isWhole then
    Disk.writeFile target m.content
    Disk.changeMode target (fileModeOf m)
  else Disk.writeFile target (wholeChunks m.content)

/-- What has been done with the members so far. -/
structure Progress where
  /-- The first name on the way to the first member. -/
  root : Option Disk.Segment := none
  /-- The number of files made. -/
  files : Nat := 0
  /-- The number of members passed over. -/
  skipped : Nat := 0

/-- Notes that a member is at work; the first one gives the root. -/
def Progress.enter (p : Progress) (m : Member) : Progress :=
  { p with root := some (p.root.getD ((Disk.segments m.name).head?.getD [])) }

/-- Makes one member. -/
def unpackMember (destination : List Char) (p : Progress) (m : Member) : Work UnpackFault Progress := do
  if m.isMetadata then
    Work.report .debug "Skipping pax global header"
    return p
  else
    match refusalReason? (← Work.disk) destination m.name with
    | some reason => throw (.refusedMember m.name reason)
    | none =>
      let target := Disk.below destination (Disk.segments m.name)
      let p := p.enter m
      match m.kind with
      | .directory =>
        Work.change .disk (writeDirectory m target)
        return p
      | .file =>
        Work.change .disk (writeMember m target)
        if m.isWhole then return { p with files := p.files + 1 } else throw .damaged
      | .other =>
        Work.report .warning ("Skipping archive member '" ++ String.ofList m.name ++
          "': links and special files are not extracted")
        return { p with skipped := p.skipped + 1 }

/-- The bytes behind an offset; offsets below zero count from the end. -/
def behind (offset : Int) (bytes : Bytes) : Bytes :=
  if offset < 0 then bytes.drop (bytes.length - offset.natAbs) else bytes.drop offset.toNat

/-- Whether an archive begins with attributes of all members and holds nothing else. -/
def isMetadataOnly (bytes : Bytes) : Bool :=
  match Header.ofBlock (bytes.take blockSize) with
  | .ok header =>
    header.kind = .sharedAttributes && (behind (blockSize + wholeBlocks header.size) bytes).all (· = 0)
  | .error _ => false

/-- Reports that there is nothing to unpack. -/
def reportOnlyMetadata : Work UnpackFault Unit :=
  Work.report .warning "Template archive contains no entries besides metadata"

/-- Makes the members of a listing of an archive below a directory. -/
def unpackListing (bytes : Bytes) (listing : Listing) (destination : List Char) :
    Work UnpackFault (List Char) := do
  let p ← listing.members.foldlM (unpackMember destination) {}
  if listing.ending = .cutLayout then throw .cutLayout
  else if listing.members.isEmpty then
    if listing.ending = .closed then throw .empty
    else if isMetadataOnly bytes then
      reportOnlyMetadata
      return destination
    else if bytes.all (· = 0) then throw .empty
    else throw .damaged
  else if listing.ending = .damaged then throw .damaged
  else
    match p.root.getD [] with
    | [] =>
      reportOnlyMetadata
      return destination
    | root =>
      let path := Disk.below destination [root]
      Work.report .debug ("Extracted " ++ toString p.files ++ " files to " ++ String.ofList path ++ " (" ++
        toString p.skipped ++ " skipped)")
      return path

/-- Unpacks a compressed archive below a directory; the path of what it holds. -/
def unpack (data : Bytes) (destination : List Char) : Work UnpackFault (List Char) :=
  match decompress? data with
  | none => throw .notCompressed
  | some bytes => unpackListing bytes (list bytes) destination

end Stencil.Archive
