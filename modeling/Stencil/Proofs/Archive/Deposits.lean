import Stencil.Proofs.Archive.Confinement
import Stencil.Proofs.Archive.Endings
import Stencil.Proofs.Disk.Making
import Stencil.Proofs.Disk.Writing

/-!
# What members make of a disk

Members are made one after the other, each in the place that its name leads to.  A member that may not be made
stops the work before anything is done for it: the disk is what the members before it make of it.
-/

namespace Stencil.Archive

open Disk

/-! ## Refused members -/

/-- A name may not be made below a directory, and why. -/
inductive IsUnsafe (d : Disk) (destination name : List Char) : RefusalReason → Prop
  | invalidName : name = [] ∨ '\x00' ∈ name → IsUnsafe d destination name .invalidName
  | absolute : isAbsolute name → IsUnsafe d destination name .absolute
  | leadsAbove : above ∈ segments name → IsUnsafe d destination name .leadsAbove
  | outside : ¬d.resolve destination <+: d.resolve (below destination (segments name)) →
      IsUnsafe d destination name .outside

/-- A member may not be made, and why; members that hold attributes of the archive are never made. -/
def Refuses (d : Disk) (destination : List Char) (m : Member) (reason : RefusalReason) : Prop :=
  m.isMetadata = false ∧ IsUnsafe d destination m.name reason

theorem isUnsafe_of_refusalReason? {d : Disk} {destination name : List Char} {reason : RefusalReason}
    (refused : refusalReason? d destination name = some reason) : IsUnsafe d destination name reason := by
  unfold refusalReason? at refused
  split at refused
  · rename_i invalid
    cases refused
    exact .invalidName (by simpa using invalid)
  split at refused
  · rename_i absolute
    cases refused
    exact .absolute absolute
  split at refused
  · rename_i up
    cases refused
    exact .leadsAbove (by simpa using up)
  split at refused
  · cases refused
  · rename_i outside
    cases refused
    refine .outside fun within => outside ?_
    rw [staysWithin, List.isPrefixOf_iff_prefix]
    exact within

theorem not_isUnsafe_of_refusalReason? {d : Disk} {destination name : List Char}
    (accepted : refusalReason? d destination name = none) (reason : RefusalReason) :
    ¬IsUnsafe d destination name reason := by
  unfold refusalReason? at accepted
  split at accepted
  · cases accepted
  rename_i valid
  split at accepted
  · cases accepted
  rename_i relative
  split at accepted
  · cases accepted
  rename_i down
  split at accepted
  · rename_i within
    intro isUnsafe
    cases isUnsafe with
    | invalidName invalid => exact valid (by simpa using invalid)
    | absolute absolute => exact relative absolute
    | leadsAbove up => exact down (by simpa using up)
    | outside outside => exact outside (List.isPrefixOf_iff_prefix.mp within)
  · cases accepted

/-- A name is refused while members are made if it was before the first one. -/
theorem refusalReason?_of_grown {base : Route} {start d : Disk} (grown : Grown base start d)
    (destination name : List Char) :
    refusalReason? d destination name = refusalReason? start destination name := by
  unfold refusalReason? staysWithin
  rw [grown.resolve, grown.resolve]

/-! ## Members -/

/-- The place that the name of a member leads to below a directory. -/
def placeOf (d : Disk) (destination : List Char) (m : Member) : Route :=
  d.resolve (below destination (segments m.name))

theorem placeOf_of_grown {base : Route} {start d : Disk} (grown : Grown base start d) (destination : List Char)
    (m : Member) : placeOf d destination m = placeOf start destination m :=
  grown.resolve _

/-- The bits of the mode of a member, with those that its owner gets in any case. -/
def modeFor (m : Member) (owner : Nat) : Nat :=
  (m.mode % 0o1000).toNat ||| owner

/-- What a member makes in its place, if anything. -/
def nodeOf (m : Member) : Option Node :=
  match m.isMetadata, m.kind with
  | false, .directory => some (.directory (modeFor m 0o700))
  | false, .file => some (.file m.content (modeFor m 0o600))
  | _, _ => none

/-- The disk once a member has been made, in the place that its name leads to on the disk at the start. -/
def deposit (start : Disk) (destination : List Char) (d : Disk) (m : Member) : Disk :=
  match nodeOf m with
  | some node => (d.pave (placeOf start destination m).dropLast).put (placeOf start destination m) node
  | none => d

section Members

variable {base : Route} {d : Disk} {destination : List Char} (opened : Opened base d destination) (m : Member)
  (accepted : refusalReason? d destination m.name = none)

theorem not_mem_above_of_accepted {name : List Char} (accepted : refusalReason? d destination name = none) :
    above ∉ segments name :=
  fun up => not_isUnsafe_of_refusalReason? accepted _ (.leadsAbove up)

include opened accepted in
theorem ensures_writeDirectory :
    Ensures (writeDirectory m (below destination (segments m.name))) d
      (fun _ t => t = (d.pave (placeOf d destination m).dropLast).put (placeOf d destination m)
        (.directory (directoryModeOf m)) ∧ Grown [] d t)
      fun _ _ => True := by
  have areNames : ∀ name ∈ segments m.name, IsName name := fun _ known => isName_of_mem_segments known
  obtain ⟨mode, walks⟩ := opened.walks
  have start := holdsDirectory_startOf_below walks areNames
  unfold writeDirectory
  rw [ensureDirectories_below destination areNames]
  refine .bind ((ensures_ensureUp_below opened.wellFormed walks areNames (not_mem_above_of_accepted accepted)).mono
    (fun _ t made => ?_) fun _ _ failed => failed)
  exact made.changeMode start (directoryModeOf m)

include opened accepted in
/-- A file that stands for the directory itself is not made. -/
theorem ensures_writeMember_nil (none : segments m.name = []) :
    Ensures (writeMember m (below destination (segments m.name))) d (fun _ _ => False) fun _ _ => True := by
  have target := target_of_accepted opened (opened.wellFormed.grown base) accepted
  obtain ⟨mode, walks⟩ := opened.walks
  unfold writeMember
  refine .bind ((keeps_ensureDirectories_parent target d (opened.wellFormed.grown base)).mono
    (fun _ t grown => ?_) fun _ _ _ => trivial)
  obtain ⟨node, walksNow, kind⟩ := grown.walks walks rfl
  obtain ⟨mode', rfl⟩ := kind.of_directory
  rw [none]
  have noNames : ∀ name ∈ ([] : List Segment), IsName name := List.forall_mem_nil _
  have same : startOf d.here destination = startOf t.here (below destination []) := by
    rw [grown.here, startOf_congr _ (isAbsolute_below destination noNames)]
  have whole : segments destination = segments (below destination []) := by
    rw [segments_below destination noNames, List.append_nil]
  rw [same, whole] at walksNow
  split
  · exact .bind ((ensures_writeFile_directory walksNow _).mono nofun fun _ _ failed => failed)
  · exact (ensures_writeFile_directory walksNow _).mono nofun fun _ _ failed => failed

include opened accepted in
theorem ensures_writeMember (whole : m.isWhole) :
    Ensures (writeMember m (below destination (segments m.name))) d
      (fun _ t => t = (d.pave (placeOf d destination m).dropLast).put (placeOf d destination m)
        (.file m.content (fileModeOf m)) ∧ Grown [] d t)
      fun _ _ => True := by
  rcases List.eq_nil_or_concat' (segments m.name) with none | ⟨names, name, split⟩
  · exact (ensures_writeMember_nil opened m accepted none).mono nofun fun _ _ failed => failed
  have areNames : ∀ name ∈ segments m.name, IsName name := fun _ known => isName_of_mem_segments known
  have down := not_mem_above_of_accepted accepted
  obtain ⟨mode, walks⟩ := opened.walks
  have start := holdsDirectory_startOf_below walks areNames
  rw [split] at areNames down start ⊢
  have areNamesUp : ∀ name ∈ names, IsName name := fun other known => areNames other (List.mem_append_left _ known)
  unfold writeMember
  rw [if_pos whole, parent_below destination areNames (by simp), List.dropLast_concat,
    ensureDirectories_below destination areNamesUp]
  refine .bind ((ensures_ensureUp_below opened.wellFormed walks areNamesUp
    fun member => down (List.mem_append_left _ member)).mono (fun _ t made => ?_) fun _ _ failed => failed)
  have startNow := made.grown.holdsDirectory_startOf start
  refine .bind ((ensures_writeFile made.grown.wellFormed startNow _).mono (fun _ u written => ?_)
    fun _ _ failed => failed)
  obtain ⟨mode', placed⟩ := written
  refine (placed.changeMode startNow (fileModeOf m)).mono (fun _ v placed => ?_) fun _ _ failed => failed
  obtain ⟨root, more⟩ := below_concat destination areNames
  have named : name ≠ above := fun same => down (by simp [same])
  have around := made.around opened.wellFormed placed.isResolved placed.parent root more named
  refine ⟨?_, made.grown.trans placed.grown⟩
  rw [placeOf, split, ← around, placed.placed, made.grown.resolve]

end Members

/-! ## Runs -/

theorem Opened.of_grown {base : Route} {start d : Disk} {destination : List Char}
    (opened : Opened base start destination) (grown : Grown [] start d) : Opened base d destination := by
  obtain ⟨mode, walks⟩ := opened.walks
  obtain ⟨node, walksNow, kind⟩ := grown.walks walks rfl
  obtain ⟨mode', rfl⟩ := kind.of_directory
  exact ⟨⟨mode', grown.here ▸ walksNow⟩, grown.wellFormed⟩

section Runs

variable {base : Route} {start : Disk} {destination : List Char} (opened : Opened base start destination)
  {w : Workspace} (grown : Grown [] start w.disk)

include opened grown in
/-- A member that may be made leaves what it makes, if nothing stops it. -/
theorem ensures_unpackMember {m : Member} (safe : ∀ reason, ¬Refuses start destination m reason)
    (whole : m.isRead → m.isWhole) (p : Progress) :
    Ensures (unpackMember destination p m) w
      (fun _ t => t.disk = deposit start destination w.disk m ∧ Grown [] start t.disk)
      fun fault _ => ∃ stopped, fault = .disk stopped := by
  cases metadata : m.isMetadata with
  | true =>
      unfold unpackMember deposit nodeOf
      rw [metadata]
      exact .bind (.modify (.pure ⟨rfl, grown⟩))
  | false =>
      have accepted : refusalReason? w.disk destination m.name = none := by
        rw [refusalReason?_of_grown grown]
        cases refused : refusalReason? start destination m.name with
        | none => rfl
        | some reason => exact absurd ⟨metadata, isUnsafe_of_refusalReason? refused⟩ (safe reason)
      have openedNow := opened.of_grown grown
      refine (ensures_unpackMember_accepted
        (fun d => d = deposit start destination w.disk m ∧ Grown [] start d) (fun _ => True)
        metadata accepted (fun directory => ?_) (fun file => ⟨?_, ?_⟩) fun other => ⟨?_, grown⟩).mono
        (fun _ _ made => made) fun _ _ ⟨fault, _, same⟩ => ⟨fault, same⟩
      · refine (ensures_writeDirectory openedNow m accepted).mono (fun _ d made => ?_) fun _ _ failed => failed
        rw [placeOf_of_grown grown] at made
        unfold deposit nodeOf
        rw [metadata, directory]
        exact ⟨made.1, grown.trans made.2⟩
      · exact whole (by simp [Member.isRead, file, metadata])
      · have complete : m.isWhole := whole (by simp [Member.isRead, file, metadata])
        refine (ensures_writeMember openedNow m accepted complete).mono (fun _ d made => ?_) fun _ _ failed => failed
        rw [placeOf_of_grown grown] at made
        unfold deposit nodeOf
        rw [metadata, file]
        exact ⟨made.1, grown.trans made.2⟩
      · unfold deposit nodeOf
        rw [metadata, other]

include opened grown in
/-- Members that may be made leave what they make one after the other, if nothing stops them. -/
theorem ensures_foldlM_unpackMember {members : List Member}
    (safe : ∀ m ∈ members, ∀ reason, ¬Refuses start destination m reason)
    (whole : ∀ m ∈ members, m.isRead → m.isWhole) (p : Progress) :
    Ensures (members.foldlM (unpackMember destination) p) w
      (fun _ t => t.disk = members.foldl (deposit start destination) w.disk ∧ Grown [] start t.disk)
      fun fault _ => ∃ stopped, fault = .disk stopped := by
  induction members generalizing p w with
  | nil => exact .pure ⟨rfl, grown⟩
  | cons m members induction =>
      rw [List.foldlM_cons]
      have first := ensures_unpackMember opened grown (safe m List.mem_cons_self) (whole m List.mem_cons_self) p
      refine .bind (first.mono (fun p' t made => ?_) fun _ _ stopped => stopped)
      obtain ⟨deposited, grownOn⟩ := made
      rw [List.foldl_cons, ← deposited]
      exact induction grownOn (fun other known => safe other (List.mem_cons_of_mem m known))
        (fun other known => whole other (List.mem_cons_of_mem m known)) p'

include grown in
/-- A member that may not be made stops the work and leaves the disk as it is. -/
theorem ensures_unpackMember_refused {m : Member} {reason : RefusalReason}
    (refused : Refuses start destination m reason) (p : Progress) :
    Ensures (unpackMember destination p m) w (fun _ _ => False) fun fault t => t = w ∧
      ∃ reason, Refuses start destination m reason ∧ fault = .refusedMember m.name reason := by
  obtain ⟨plain, isUnsafe⟩ := refused
  unfold unpackMember
  rw [if_neg (by simp [plain])]
  refine .bind (.bind (.get (.pure ?_)))
  rw [refusalReason?_of_grown grown]
  cases given : refusalReason? start destination m.name with
  | none => exact absurd isUnsafe (not_isUnsafe_of_refusalReason? given reason)
  | some reason => exact .throw ⟨rfl, reason, ⟨plain, isUnsafe_of_refusalReason? given⟩, rfl⟩

end Runs

/-! ## Unpacking -/

/-- How members are made on a disk: all of them one after the other, if none is refused; otherwise those before
the first refused one, which the failure names. -/
structure Deposits (start : Disk) (destination : List Char) (members : List Member)
    (ran : Except UnpackFault (List Char) × Workspace) : Prop where
  /-- Members that are all there and none of which is refused are made. -/
  all : (∀ m ∈ members, ∀ reason, ¬Refuses start destination m reason) →
    (∀ m ∈ members, m.isRead → m.isWhole) → ran.2.disk = members.foldl (deposit start destination) start
  /-- The first refused member ends the work. -/
  refused : ∀ done m rest, members = done ++ m :: rest →
    (∀ before ∈ done, ∀ reason, ¬Refuses start destination before reason) →
    (∃ reason, Refuses start destination m reason) →
    (∃ reason, Refuses start destination m reason ∧ ran.1 = .error (.refusedMember m.name reason)) ∧
      ran.2.disk = done.foldl (deposit start destination) start

section Unpacking

variable {base : Route} {w : Workspace} {destination : List Char} (opened : Opened base w.disk destination)

include opened in
theorem ensures_foldlM_refused {done : List Member} {m : Member} {reason : RefusalReason}
    (safe : ∀ before ∈ done, ∀ reason, ¬Refuses w.disk destination before reason)
    (whole : ∀ before ∈ done, before.isRead → before.isWhole) (refused : Refuses w.disk destination m reason)
    (rest : List Member) :
    Ensures ((done ++ m :: rest).foldlM (unpackMember destination) {}) w (fun _ _ => False) fun fault t =>
      (∃ stopped, fault = .disk stopped) ∨ t.disk = done.foldl (deposit w.disk destination) w.disk ∧
        ∃ reason, Refuses w.disk destination m reason ∧ fault = .refusedMember m.name reason := by
  rw [List.foldlM_append]
  have first := ensures_foldlM_unpackMember opened (opened.wellFormed.grown []) safe whole {}
  refine .bind (first.mono (fun p t made => ?_) fun _ _ stopped => .inl stopped)
  obtain ⟨deposited, grown⟩ := made
  rw [List.foldlM_cons]
  refine .bind ((ensures_unpackMember_refused grown refused p).mono nofun fun fault u failed => .inr ?_)
  obtain ⟨rfl, named⟩ := failed
  exact ⟨deposited, named⟩

include opened in
theorem deposits_unpackListing {listing : Listing} (bytes : Bytes)
    (onlyLast : ∀ m ∈ listing.members.dropLast, m.isRead → m.isWhole)
    (undisturbed : ∀ stopped, ((unpackListing bytes listing destination).run w).1 ≠ .error (.disk stopped)) :
    Deposits w.disk destination listing.members ((unpackListing bytes listing destination).run w) := by
  constructor
  · intro safe whole
    have made := ensures_foldlM_unpackMember opened (opened.wellFormed.grown []) safe whole {}
    have deposited := made.mono (fun _ _ made => made.1) fun _ _ stopped => stopped
    have ends := ensures_unpackListing (· = listing.members.foldl (deposit w.disk destination) w.disk) deposited bytes
    rcases ends.outcome with ⟨_, t, ran, held⟩ | ⟨fault, t, ran, failed⟩
    · rw [ran]
      exact held
    · rw [ran] at undisturbed ⊢
      rcases failed with ⟨stopped, rfl⟩ | held
      · exact absurd rfl (undisturbed stopped)
      · exact held
  · rintro done m rest split safe ⟨reason, refused⟩
    rw [split, List.dropLast_append_of_ne_nil (List.cons_ne_nil m rest)] at onlyLast
    have stops := ensures_foldlM_refused opened safe
      (fun before known => onlyLast before (List.mem_append_left _ known)) refused rest
    rw [← split] at stops
    rcases (ensures_unpackListing (fun _ => False) stops bytes).outcome with ⟨_, _, _, never⟩ | ⟨fault, t, ran, failed⟩
    · cases never
    · rw [ran] at undisturbed ⊢
      rcases failed with (⟨stopped, rfl⟩ | ⟨held, named⟩) | never
      · exact absurd rfl (undisturbed stopped)
      · obtain ⟨reason, refused, rfl⟩ := named
        exact ⟨⟨reason, refused, rfl⟩, held⟩
      · cases never

end Unpacking

/-- Unpacking below a directory that is there, if no operation on the disk is stopped, makes the members one after
the other; it ends at the first one that may not be made, which leaves the disk as the members before it made it.
Whether a member may be made, and where, is said by its name and by the links on the disk at the start. -/
theorem unpack_deposits (w : Workspace) (destination : List Char) (wellFormed : w.disk.WellFormed)
    {base : Route} {mode : Nat}
    (opened : w.disk.locate true destination = .ok ⟨base, some (.directory mode)⟩) :
    (∀ (bytes : Bytes) (listing : Listing), (∀ m ∈ listing.members.dropLast, m.isRead → m.isWhole) →
      (∀ stopped, ((unpackListing bytes listing destination).run w).1 ≠ .error (.disk stopped)) →
      Deposits w.disk destination listing.members ((unpackListing bytes listing destination).run w)) ∧
    ∀ data bytes : Bytes, decompress? data = some bytes →
      (∀ stopped, ((unpack data destination).run w).1 ≠ .error (.disk stopped)) →
      Deposits w.disk destination (list bytes).members ((unpack data destination).run w) := by
  have inDirectory : Opened base w.disk destination := ⟨⟨mode, walks_of_locate opened⟩, wellFormed⟩
  refine ⟨fun bytes listing onlyLast undisturbed => deposits_unpackListing inDirectory bytes onlyLast undisturbed, ?_⟩
  intro data bytes read undisturbed
  unfold unpack at undisturbed ⊢
  rw [read] at undisturbed ⊢
  exact deposits_unpackListing inDirectory bytes (isWhole_of_mem_dropLast_list bytes) undisturbed

theorem wellFormed_emptyDirectory : emptyDirectory.disk.WellFormed := by
  refine wellFormed_of_forall_mem fun entry listed => ?_
  obtain rfl := List.mem_singleton.mp listed
  exact ⟨by decide, holdsDirectory_nil _⟩

/-- A file that would be made above the directory. -/
def strayMember : Member where
  name := "../x".toList
  mode := 0o644
  kind := .file

/-- A file is made with the directory around it, and the next one is refused. -/
theorem unpack_deposits_before_stray :
    ((unpackListing [] ⟨[firstMember, strayMember], .closed⟩ "/to".toList).run emptyDirectory).2.disk =
      ⟨[(["to".toList], .directory 0o755), (["to".toList, "t".toList], .directory 0o755),
        (["to".toList, "t".toList, "a".toList], .file [] 0o600)], []⟩ := by
  have opened : emptyDirectory.disk.locate true "/to".toList = .ok ⟨["to".toList], some (.directory 0o755)⟩ := by
    rw [locate, if_neg (by decide), if_neg (by decide)]
    have walks : Walks emptyDirectory.disk true mostLinks [] (segments "/to".toList)
        ⟨["to".toList], some (.directory 0o755)⟩ :=
      .down (holdsDirectory_nil _) (by decide) (by decide) rfl (by simp) .arrived
    exact walks.walk
  have ran : ∃ t, (unpackListing [] ⟨[firstMember, strayMember], .closed⟩ "/to".toList).run emptyDirectory =
      (.error (.refusedMember strayMember.name .leadsAbove), t) := by
    obtain ⟨p, t, first⟩ := unpackMember_firstMember
    have second : (unpackMember "/to".toList p strayMember).run t =
        (.error (.refusedMember strayMember.name .leadsAbove), t) := rfl
    have both : ([firstMember, strayMember].foldlM (unpackMember "/to".toList) {}).run emptyDirectory =
        (.error (.refusedMember strayMember.name .leadsAbove), t) := by
      rw [List.foldlM_cons, run_bind, first]
      dsimp only
      rw [List.foldlM_cons, run_bind, second]
    exact ⟨t, by rw [unpackListing, run_bind, both]⟩
  obtain ⟨t, ran⟩ := ran
  have deposits := (unpack_deposits emptyDirectory "/to".toList wellFormed_emptyDirectory opened).1 []
    ⟨[firstMember, strayMember], .closed⟩ (by simp [firstMember]) (fun stopped same => by rw [ran] at same; cases same)
  have accepted : refusalReason? emptyDirectory.disk "/to".toList firstMember.name = none := by cbv
  have safe : ∀ before ∈ [firstMember], ∀ reason, ¬Refuses emptyDirectory.disk "/to".toList before reason := by
    intro before known reason refused
    obtain rfl := List.mem_singleton.mp known
    exact not_isUnsafe_of_refusalReason? accepted reason refused.2
  have stray : Refuses emptyDirectory.disk "/to".toList strayMember .leadsAbove := ⟨by decide, .leadsAbove (by decide)⟩
  rw [(deposits.refused [firstMember] strayMember [] rfl safe ⟨_, stray⟩).2]
  cbv

/-! ## A link named like the attributes of an archive -/

/-- The header of an empty file that is named like the attributes of an archive. -/
def metadataBlock : Bytes :=
  headerBlock [0x70, 0x61, 0x78, 0x5F, 0x67, 0x6C, 0x6F, 0x62, 0x61, 0x6C, 0x5F, 0x68, 0x65, 0x61, 0x64, 0x65, 0x72]
    [0x30, 0x30, 0x34, 0x30, 0x32, 0x31] 0x30

/-- An archive of this file. -/
def metadataArchive : Bytes :=
  metadataBlock ++ List.replicate 1024 0

/-- A directory in which a link of this name leads out. -/
def linkedDirectory : Workspace where
  disk := ⟨[(["to".toList], .directory 0o755), (["to".toList, metadataName], .link "/out".toList)], []⟩

/-- The member of the archive. -/
def metadataMember : Member where
  name := metadataName
  mode := 0
  kind := .file

set_option maxRecDepth 10000 in
theorem ofBlock_metadataBlock :
    Header.ofBlock metadataBlock = .ok { name := metadataName, mode := 0, size := 0, kind := .file } := by
  cbv

theorem isComplete_metadataArchive : IsComplete metadataArchive [metadataMember] := by
  have announced := announce_append ofBlock_metadataBlock (.inl rfl) rfl {} (List.replicate 1024 0)
  refine ⟨{}, List.replicate 1024 0, .member announced ⟨fun _ => rfl, ?_, ?_⟩ .none, ?_⟩
  · exact Int.le_refl 0
  · exact Int.natCast_nonneg _
  · exact List.prefix_replicate_iff.mpr ⟨by rw [List.length_replicate]; decide, by rw [List.length_replicate]⟩

/-- A member is passed over by its name, although the name leads out of the directory. -/
theorem unpack_metadata_behind_link :
    decompress? (store metadataArchive) = some metadataArchive ∧
      (∃ m, (list metadataArchive).members = [m] ∧ IsUnsafe linkedDirectory.disk "/to".toList m.name .outside) ∧
      ∃ path t, (unpack (store metadataArchive) "/to".toList).run linkedDirectory = (.ok path, t) := by
  have short : metadataArchive.length < 65536 := by
    rw [metadataArchive, List.length_append, metadataBlock, length_headerBlock (by decide) rfl, List.length_replicate]
    decide
  have listed := list_of_takenAsComplete (.complete (List.cons_ne_nil _ _) isComplete_metadataArchive)
  refine ⟨decompress?_store short, ⟨metadataMember, listed.1, .outside ?_⟩, ?_⟩
  · have directory : linkedDirectory.disk.resolve "/to".toList = ["to".toList] := by cbv
    have outside : linkedDirectory.disk.resolve (below "/to".toList (segments metadataMember.name)) =
        ["out".toList] := by cbv
    rw [directory, outside]
    decide
  · rw [unpack_store short, unpackListing_ok_iff, listed.1]
    exact ⟨⟨_, _, rfl⟩, listed.2⟩

end Stencil.Archive
