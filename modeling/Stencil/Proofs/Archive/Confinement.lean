import Stencil.Archive.Unpack
import Stencil.Proofs.Disk.Growth
import Stencil.Proofs.Disk.Path
import Stencil.Proofs.Work

/-!
# Confinement

Whatever the members of an archive are, unpacking them makes and changes files and directories below the
directory that the destination leads to, and nowhere else.
-/

namespace Stencil.Archive

open Disk

/-! ## Targets -/

/-- A path leads down by names from a directory and never outside of the place where that is. -/
structure Target (base : Route) (d : Disk) (destination target : List Char) : Prop where
  /-- The directory is there. -/
  opened : ∃ mode, Walks d true mostLinks (startOf d.here destination) (segments destination)
    ⟨base, some (.directory mode)⟩
  /-- The path begins where the path of the directory does. -/
  root : isAbsolute target = isAbsolute destination
  /-- It goes on with names that do not lead up. -/
  names : ∃ names, segments target = segments destination ++ names ∧ above ∉ names
  /-- If it leads anywhere, this is in the directory. -/
  inside : ∀ route count, Leads d.linkAt (startOf d.here target) (segments target) route count →
    above ∉ route → base <+: route

namespace Target

variable {base : Route} {before d : Disk} {destination target path : List Char}

theorem start (t : Target base before destination target) (grown : Grown base before d)
    (root : isAbsolute path = isAbsolute destination) :
    startOf d.here path = startOf before.here target ∧ d.HoldsDirectory (startOf d.here path) := by
  obtain ⟨mode, walks⟩ := t.opened
  have same : startOf d.here path = startOf before.here destination := by
    rw [grown.here, startOf_congr _ root]
  refine ⟨same.trans (startOf_congr _ t.root.symm), ?_⟩
  rw [same]
  exact grown.holdsDirectory (holdsDirectory_start walks)

/-- What a walk to the target finds or misses is in the directory. -/
theorem found (t : Target base before destination target) (grown : Grown base before d) {spot : Spot}
    (located : d.locate true target = .ok spot) : base <+: spot.route := by
  obtain ⟨same, holds⟩ := t.start grown t.root
  have walks := walks_of_locate located
  obtain ⟨count, leads⟩ := walks.leads (.inl rfl)
  obtain ⟨-, named, -⟩ := walks.spot_eq holds grown.wellFormed
  rw [grown.linkAt, same] at leads
  exact t.inside spot.route count leads named

/-- What is missing on the way to the target is missing in the directory. -/
theorem missing (t : Target base before destination target) (grown : Grown base before d)
    (root : isAbsolute path = isAbsolute destination) (onTheWay : segments path <+: segments target)
    {route : Route} (located : d.locate false path = .ok ⟨route, none⟩) : base <+: route := by
  obtain ⟨same, holds⟩ := t.start grown root
  obtain ⟨mode, opened⟩ := t.opened
  obtain ⟨names, whole, down⟩ := t.names
  have walks := walks_of_locate located
  obtain ⟨absent, named, parent, -⟩ := walks.spot_eq holds grown.wellFormed
  -- The directory is there, so what is missing is not on the way to it.
  obtain ⟨node, openedNow, kind⟩ := grown.walks opened rfl
  obtain ⟨mode', rfl⟩ := kind.of_directory
  have behind : ¬segments path <+: segments destination := by
    rintro ⟨rest, early⟩
    have startSame : startOf d.here path = startOf before.here destination :=
      same.trans (startOf_congr _ t.root)
    refine walks.walk_append_ne_ok rfl holds grown.wellFormed true rest ?_
      (early ▸ startSame ▸ openedNow.walk)
    simp
  -- So it is missing among the names behind, and these lead straight down from there.
  obtain ⟨rest, split⟩ := onTheWay
  rw [whole] at split
  rcases List.append_eq_append_iff.mp split with ⟨early, before, -⟩ | ⟨late, -, after⟩
  · exact absurd ⟨early, before.symm⟩ behind
  have downRest : above ∉ rest := fun member => down (after ▸ List.mem_append_right late member)
  have empty (further : List Segment) : d.get? (route ++ further) = none := by
    cases held : d.get? (route ++ further) with
    | none => rfl
    | some node =>
        have reached := grown.wellFormed.ne_none_of_prefix (List.prefix_append route further)
          (by simp [held])
        exact absurd absent reached
  obtain ⟨count, leads⟩ := walks.leads (.inr rfl)
  have straight : Leads d.linkAt route rest (route ++ rest) 0 :=
    .straight downRest fun further _ _ => by rw [linkAt, empty]
  have leadsWhole := leads.append straight
  rw [split, ← whole, grown.linkAt, same] at leadsWhole
  have named' : above ∉ route ++ rest := by
    intro member
    rcases List.mem_append.mp member with first | last
    · exact named first
    · exact downRest last
  have inside := t.inside _ _ leadsWhole named'
  rcases List.prefix_or_prefix_of_prefix inside (List.prefix_append route rest) with below | early
  · exact below
  · have holds := grown.holdsDirectory (holdsDirectory_start opened)
    obtain ⟨held, -⟩ := openedNow.spot_eq holds grown.wellFormed
    exact absurd absent (grown.wellFormed.ne_none_of_prefix early (by simp [held]))

end Target

/-! ## Operations -/

section Operations

variable {base : Route} {before : Disk} {destination target path : List Char}

theorem keeps_makeDirectory (t : Target base before destination target)
    (root : isAbsolute path = isAbsolute destination) (onTheWay : segments path <+: segments target) :
    Keeps (makeDirectory path) (Grown base before) := by
  intro d grown
  refine .bind (ensures_spot (fun spot located => ?_) fun _ _ => grown)
  obtain ⟨route, node⟩ := spot
  cases node with
  | some node => exact .throw grown
  | none =>
      have inside := t.missing grown root onTheWay located
      obtain ⟨absent, named, parent, -⟩ :=
        (walks_of_locate located).spot_eq (t.start grown root).2 grown.wellFormed
      obtain ⟨place, name, rfl, holds⟩ := parent rfl
      refine .modify (grown.put inside ⟨nofun, named, ?_⟩)
      simp only at absent
      simpa only [absent, List.dropLast_concat] using holds

theorem keeps_acceptDirectory (path : List Char) (fault : Fault) :
    Keeps (acceptDirectory path fault) (Grown base before) := by
  intro d grown
  refine .bind (.get ?_)
  split
  · exact .pure grown
  · exact .throw grown
  · exact .throw grown

theorem keeps_ensureDirectory (t : Target base before destination target)
    (root : isAbsolute path = isAbsolute destination) (onTheWay : segments path <+: segments target) :
    Keeps (ensureDirectory path) (Grown base before) := by
  refine .tryCatch (keeps_makeDirectory t root onTheWay) fun fault => ?_
  split
  · exact .throw fault
  · exact keeps_acceptDirectory path fault

theorem keeps_ensureUp (t : Target base before destination target)
    (root : isAbsolute path = isAbsolute destination) {up : List Segment}
    (areNames : ∀ name ∈ up, IsName name) (onTheWay : up.reverse <+: segments target) :
    Keeps (ensureUp (rootOf path) up) (Grown base before) := by
  have rootUp {up : List Segment} (areNames : ∀ name ∈ up, IsName name) :
      isAbsolute (pathUp (rootOf path) up) = isAbsolute destination :=
    (isAbsolute_pathUp path areNames).trans root
  induction up with
  | nil =>
      refine keeps_ensureDirectory t (rootUp areNames) ?_
      rw [segments_pathUp path areNames]
      exact onTheWay
  | cons name up induction =>
      have way : segments (pathUp (rootOf path) (name :: up)) <+: segments target := by
        rw [segments_pathUp path areNames]
        exact onTheWay
      refine .tryCatch (keeps_makeDirectory t (rootUp areNames) way) fun fault => ?_
      split
      · refine .bind (induction (fun other known => areNames other (List.mem_cons_of_mem name known)) ?_)
          fun _ => keeps_ensureDirectory t (rootUp areNames) way
        rw [List.reverse_cons] at onTheWay
        exact (List.prefix_append up.reverse [name]).trans onTheWay
      · exact keeps_acceptDirectory _ fault

theorem keeps_ensureDirectories (t : Target base before destination target)
    (root : isAbsolute path = isAbsolute destination) (onTheWay : segments path <+: segments target) :
    Keeps (ensureDirectories path) (Grown base before) := by
  refine keeps_ensureUp t root (fun name known => ?_) ?_
  · exact isName_of_mem_segments (List.mem_reverse.mp known)
  · rwa [List.reverse_reverse]

/-- What a walk to the target ends at may become a file if it is none yet, and stays what it is
otherwise. -/
theorem takes_found (t : Target base before destination target) {d : Disk} (grown : Grown base before d)
    {spot : Spot} (located : d.locate true target = .ok spot) (node : Node)
    (plain : ∀ path, node ≠ .link path) (kind : ∀ old, spot.node = some old → old.SameKind node) :
    base <+: spot.route ∧ d.Takes spot.route node :=
  ⟨t.found grown located, grown.wellFormed.takes (t.start grown t.root).2 located plain kind⟩

theorem file_ne_link (content : Bytes) (mode : Nat) (path : List Char) :
    Node.file content mode ≠ .link path := by
  intro same
  cases same

theorem ensures_openFile (t : Target base before destination target) {d : Disk}
    (grown : Grown base before d) :
    Ensures (openFile target) d
      (fun route after => Grown base before after ∧ base <+: route ∧ above ∉ route)
      fun _ => Grown base before := by
  refine .bind (ensures_spot (fun spot located => ?_) fun _ _ => grown)
  obtain ⟨held, named, -, unlinked⟩ :=
    (walks_of_locate located).spot_eq (t.start grown t.root).2 grown.wellFormed
  obtain ⟨route, node⟩ := spot
  cases node with
  | none =>
      have fresh (old : Node) : (none : Option Node) = some old → old.SameKind (.file [] fileMode) := by
        intro same
        cases same
      obtain ⟨inside, takes⟩ := takes_found t grown located _ (file_ne_link [] fileMode) fresh
      exact .bind (.modify (.pure ⟨grown.put inside takes, inside, named⟩))
  | some held' =>
      cases held' with
      | directory mode => exact .throw grown
      | file content mode =>
          have kind (old : Node) : some (.file content mode) = some old → old.SameKind (.file [] mode) := by
            intro same
            cases same
            exact True.intro
          obtain ⟨inside, takes⟩ := takes_found t grown located _ (file_ne_link [] mode) kind
          exact .bind (.modify (.pure ⟨grown.put inside takes, inside, named⟩))
      | link path =>
          have nowhere := unlinked rfl
          rw [linkAt, held] at nowhere
          cases nowhere

theorem keeps_writeFile (t : Target base before destination target) (content : Bytes) :
    Keeps (writeFile target content) (Grown base before) := by
  intro d grown
  refine .bind ((ensures_openFile t grown).mono (fun route after opened => ?_) fun _ _ grown => grown)
  obtain ⟨grown, inside, named⟩ := opened
  refine .bind (.get ?_)
  split
  · rename_i held
    refine .modify (grown.put inside ⟨nofun, named, ?_⟩)
    rw [held]
    exact True.intro
  · exact .pure grown

theorem keeps_changeMode (t : Target base before destination target) (mode : Nat) :
    Keeps (changeMode target mode) (Grown base before) := by
  intro d grown
  refine .bind (ensures_spot (fun spot located => ?_) fun _ _ => grown)
  obtain ⟨route, node⟩ := spot
  match node with
  | none => exact .throw grown
  | some (.file content _) =>
      obtain ⟨inside, takes⟩ := takes_found t grown located (.file content mode) nofun fun old same => by
        cases same
        exact True.intro
      exact .modify (grown.put inside takes)
  | some (.directory _) =>
      obtain ⟨inside, takes⟩ := takes_found t grown located (.directory mode) nofun fun old same => by
        cases same
        exact True.intro
      exact .modify (grown.put inside takes)
  | some (.link _) => exact .pure grown

theorem keeps_writeDirectory (t : Target base before destination target) (m : Member) :
    Keeps (writeDirectory m target) (Grown base before) :=
  .bind (keeps_ensureDirectories t t.root List.prefix_rfl) fun _ => keeps_changeMode t _

theorem keeps_ensureDirectories_parent (t : Target base before destination target) :
    Keeps (ensureDirectories (parent target)) (Grown base before) := by
  have areNames : ∀ name ∈ (segments target).reverse.tail, IsName name := fun name known =>
    isName_of_mem_segments (List.mem_reverse.mp (List.mem_of_mem_tail known))
  have root : isAbsolute (parent target) = isAbsolute destination :=
    (isAbsolute_pathUp target areNames).trans t.root
  have onTheWay : segments (parent target) <+: segments target := by
    rw [parent, segments_pathUp target areNames, List.tail_reverse, List.reverse_reverse]
    exact List.dropLast_prefix _
  exact keeps_ensureDirectories t root onTheWay

theorem keeps_writeMember (t : Target base before destination target) (m : Member) :
    Keeps (writeMember m target) (Grown base before) := by
  refine .bind (keeps_ensureDirectories_parent t) fun _ => ?_
  split
  · exact .bind (keeps_writeFile t _) fun _ => keeps_changeMode t _
  · exact keeps_writeFile t _

end Operations

/-! ## Members -/

/-- A destination leads to a directory that is there, on a well-formed disk. -/
structure Opened (base : Route) (before : Disk) (destination : List Char) : Prop where
  /-- The directory is there. -/
  walks : ∃ mode, Walks before true mostLinks (startOf before.here destination) (segments destination)
    ⟨base, some (.directory mode)⟩
  /-- The disk is well-formed. -/
  wellFormed : before.WellFormed

theorem resolve_destination {base : Route} {before d : Disk} {destination : List Char}
    (opened : Opened base before destination) (grown : Grown base before d) :
    d.resolve destination = base := by
  obtain ⟨mode, walks⟩ := opened.walks
  obtain ⟨count, leads⟩ := walks.leads (.inl rfl)
  obtain ⟨-, named, -⟩ := walks.spot_eq (holdsDirectory_start walks) opened.wellFormed
  rw [← grown.linkAt, ← grown.here] at leads
  exact resolve_of_leads leads named

/-- What is not refused is a target. -/
theorem target_of_accepted {base : Route} {before d : Disk} {destination name : List Char}
    (opened : Opened base before destination) (grown : Grown base before d)
    (accepted : refusalReason? d destination name = none) :
    Target base before destination (below destination (segments name)) := by
  have areNames : ∀ segment ∈ segments name, IsName segment := fun _ known => isName_of_mem_segments known
  have whole := segments_below destination areNames
  unfold refusalReason? at accepted
  split at accepted
  · cases accepted
  split at accepted
  · cases accepted
  split at accepted
  · cases accepted
  rename_i down
  split at accepted
  · rename_i within
    refine ⟨opened.walks, isAbsolute_below destination areNames,
      ⟨segments name, whole, by simpa using down⟩, ?_⟩
    intro route count leads named
    rw [← grown.linkAt, ← grown.here] at leads
    rw [staysWithin, resolve_destination opened grown, resolve_of_leads leads named] at within
    exact List.isPrefixOf_iff_prefix.mp within
  · cases accepted

/-- One member keeps everything outside of the directory. -/
theorem keeps_unpackMember {base : Route} {before : Disk} {destination : List Char}
    (opened : Opened base before destination) (p : Progress) (m : Member) :
    Keeps (unpackMember destination p m) fun w => Grown base before w.disk := by
  unfold unpackMember
  split
  · exact .bind (Work.keeps_report _ _) fun _ => .pure _
  intro w grown
  refine .bind (.bind (.get (.pure ?_)))
  split
  · exact .throw grown
  · rename_i accepted
    have t := target_of_accepted opened grown accepted
    simp only
    split
    · exact Keeps.bind (Work.keeps_change (keeps_writeDirectory t m)) (fun _ => .pure _) w grown
    · refine Keeps.bind (Work.keeps_change (keeps_writeMember t m)) (fun _ => ?_) w grown
      split
      · exact .pure _
      · exact .throw _
    · exact Keeps.bind (Work.keeps_report _ _) (fun _ => .pure _) w grown

/-- Once the members of a listing have been made, nothing is done to the disk any more. -/
theorem ensures_unpackListing {w : Workspace} {destination : List Char} {listing : Listing}
    {fails : UnpackFault → Workspace → Prop} (after : Disk → Prop)
    (made : Ensures (listing.members.foldlM (unpackMember destination) {}) w (fun _ t => after t.disk) fails)
    (bytes : Bytes) :
    Ensures (unpackListing bytes listing destination) w (fun _ t => after t.disk)
      fun fault t => fails fault t ∨ after t.disk := by
  refine .bind (made.mono (fun p t held => ?_) fun _ _ failed => .inl failed)
  split
  · exact .throw (.inr held)
  split
  · split
    · exact .throw (.inr held)
    split
    · exact .bind (.modify (.pure held))
    split
    · exact .throw (.inr held)
    · exact .throw (.inr held)
  split
  · exact .throw (.inr held)
  split
  · exact .bind (.modify (.pure held))
  · exact .bind (.modify (.pure held))

theorem keeps_unpackListing {base : Route} {before : Disk} {destination : List Char}
    (opened : Opened base before destination) (bytes : Bytes) (listing : Listing) :
    Keeps (unpackListing bytes listing destination) fun w => Grown base before w.disk := by
  intro w grown
  have made := Keeps.foldlM (fun p m (_ : m ∈ listing.members) => keeps_unpackMember opened p m) {} w grown
  exact (ensures_unpackListing (Grown base before) made bytes).mono (fun _ _ grown => grown) fun _ _ grown => grown.elim id id

theorem keeps_unpack {base : Route} {before : Disk} {destination : List Char}
    (opened : Opened base before destination) (data : Bytes) :
    Keeps (unpack data destination) fun w => Grown base before w.disk := by
  unfold unpack
  split
  · exact .throw _
  · exact keeps_unpackListing opened _ _

/-- Unpacking into a directory that is there changes nothing that does not lie at or below the route which
the directory resolves to, whatever the members are and however it ends. -/
theorem unpack_confined (w : Workspace) (destination : List Char) (wellFormed : w.disk.WellFormed)
    {base : Route} {mode : Nat}
    (opened : w.disk.locate true destination = .ok ⟨base, some (.directory mode)⟩) :
    (∀ (bytes : Bytes) (listing : Listing) (place : Route), ¬w.disk.resolve destination <+: place →
      ((unpackListing bytes listing destination).run w).2.disk.get? place = w.disk.get? place) ∧
    ∀ (data : Bytes) (place : Route), ¬w.disk.resolve destination <+: place →
      ((unpack data destination).run w).2.disk.get? place = w.disk.get? place := by
  have inDirectory : Opened base w.disk destination := ⟨⟨mode, walks_of_locate opened⟩, wellFormed⟩
  have start := wellFormed.grown base
  rw [resolve_destination inDirectory start]
  exact ⟨fun bytes listing place away =>
      ((keeps_unpackListing inDirectory bytes listing).state start).outside place away,
    fun data place away => ((keeps_unpack inDirectory data).state start).outside place away⟩

/-- Nothing is made behind a link that leads out of the directory. -/
theorem unpack_confined_behind_link :
    ∃ w : Workspace, w.disk.get? ["to".toList, "link".toList] = some (.link "/out".toList) ∧
      ∀ (bytes : Bytes) (listing : Listing),
        ((unpackListing bytes listing "/to".toList).run w).2.disk.get? ["out".toList, "file".toList] =
          none := by
  let disk : Disk := ⟨[(["out".toList], .directory 0o755), (["to".toList], .directory 0o755),
    (["to".toList, "link".toList], .link "/out".toList)], []⟩
  have wellFormed : disk.WellFormed := by
    refine wellFormed_of_forall_mem fun entry listed => ?_
    simp only [disk, List.mem_cons, List.not_mem_nil, or_false] at listed
    rcases listed with rfl | rfl | rfl
    · exact ⟨by decide, holdsDirectory_nil _⟩
    · exact ⟨by decide, holdsDirectory_nil _⟩
    · exact ⟨by decide, 0o755, rfl⟩
  have walks : Walks disk true mostLinks [] (segments "/to".toList)
      ⟨["to".toList], some (.directory 0o755)⟩ :=
    .down (holdsDirectory_nil _) (by decide) (by decide) rfl nofun .arrived
  have opened : disk.locate true "/to".toList = .ok ⟨["to".toList], some (.directory 0o755)⟩ := by
    rw [locate, if_neg (by decide), if_neg (by decide)]
    exact walks.walk
  have resolved : disk.resolve "/to".toList = ["to".toList] :=
    resolve_destination ⟨⟨_, walks⟩, wellFormed⟩ (wellFormed.grown _)
  refine ⟨⟨disk, []⟩, rfl, fun bytes listing => ?_⟩
  exact (unpack_confined ⟨disk, []⟩ "/to".toList wellFormed opened).1 bytes listing _
    (by rw [resolved]; decide)

end Stencil.Archive
