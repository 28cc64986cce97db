import Mathlib
import Stencil.Proofs.Disk.Growth
import Stencil.Proofs.Disk.Listing
import Stencil.Proofs.Disk.Trees
import Stencil.Proofs.Text.Utf8
import Stencil.Proofs.Work

/-!
# Writing files

Files are written below an empty directory one after the other, and the directories on the way to each of
them are made before it.  In the end the files that were written are there, and no others.
-/

namespace Stencil.Disk

/-! ## Paths below a directory -/

theorem rootOf_append_joinWith (path : List Char) {names : List Segment}
    (areNames : ∀ name ∈ names, IsName name) :
    rootOf (rootOf path ++ joinWith '/' names) = rootOf path := by
  have relative := isAbsolute_joinWith areNames
  cases joined : joinWith '/' names with
  | nil => rcases rootOf_cases path with root | root | root <;> rw [root] <;> rfl
  | cons c rest =>
      have other : c ≠ '/' := by
        rw [joined] at relative
        simpa [isAbsolute] using relative
      rcases rootOf_cases path with root | root | root
      · rw [root]
        simp [rootOf, other]
      · rw [root]
        simp [rootOf, other]
      · rw [root]
        simp [rootOf, other]

theorem rootOf_below (directory : List Char) {names : List Segment} (areNames : ∀ name ∈ names, IsName name) :
    rootOf (below directory names) = rootOf directory := by
  have areNamesAll : ∀ name ∈ segments directory ++ names, IsName name := by
    intro name known
    rcases List.mem_append.mp known with before | inside
    · exact isName_of_mem_segments before
    · exact areNames name inside
  have built := rootOf_append_joinWith directory areNamesAll
  rw [below, pathUp, List.reverse_reverse]
  split
  · rename_i isEmpty
    rw [List.isEmpty_iff.mp isEmpty] at built
    rw [← built]
    rfl
  · exact built

theorem parent_below (directory : List Char) {names : List Segment} (areNames : ∀ name ∈ names, IsName name)
    (more : names ≠ []) : parent (below directory names) = below directory names.dropLast := by
  rw [parent, rootOf_below directory areNames, segments_below directory areNames, below, List.tail_reverse,
    List.dropLast_append_of_ne_nil more]

theorem ensureDirectories_below (directory : List Char) {names : List Segment}
    (areNames : ∀ name ∈ names, IsName name) :
    ensureDirectories (below directory names) =
      ensureUp (rootOf directory) (segments directory ++ names).reverse := by
  rw [ensureDirectories, rootOf_below directory areNames, segments_below directory areNames]

/-- The path of names comes to its directory as the names do. -/
theorem join_joinWith (directory : List Char) {names : List Segment} (areNames : ∀ name ∈ names, IsName name) :
    join directory (joinWith '/' names) = below directory names := by
  rw [join, isAbsolute_joinWith areNames, if_neg Bool.false_ne_true, segments_joinWith areNames]

theorem joinWith_isPrefix (separator : Char) {before names : List Segment} (early : before <+: names) :
    joinWith separator before <+: joinWith separator names := by
  induction before generalizing names with
  | nil => exact List.nil_prefix
  | cons name before induction =>
      obtain ⟨rest, rfl⟩ := early
      cases before with
      | nil =>
          cases rest with
          | nil => exact List.prefix_refl _
          | cons next rest => exact List.prefix_append name _
      | cons next before =>
          obtain ⟨behind, whole⟩ := induction (List.prefix_append (next :: before) rest)
          exact ⟨behind, by simp only [List.cons_append, joinWith, List.append_assoc] at whole ⊢; rw [whole]⟩

/-- The names on the way to names that fit below a directory fit, too. -/
theorem Fits.of_isPrefix {directory : List Char} {before names : Route} (fits : Fits directory names)
    (early : before <+: names) : Fits directory before := by
  refine ⟨fun name known => fits.named name (early.subset known), Nat.le_trans ?_ fits.path⟩
  have longer : segments directory ++ before <+: segments directory ++ names :=
    (List.prefix_append_right_inj _).mpr early
  rw [below, pathUp, List.reverse_reverse]
  split
  · exact Text.Utf8.length_encode_pos (pathUp_ne_nil _ _)
  · rename_i some
    apply Text.Utf8.length_encode_le
    have text := (List.prefix_append_right_inj (rootOf directory)).mpr (joinWith_isPrefix '/' longer)
    rw [below, pathUp, List.reverse_reverse, if_neg]
    · exact text
    · intro empty
      rw [List.isEmpty_iff.mp empty, List.prefix_nil] at text
      exact some (by rw [text]; rfl)

/-- A walk down finds that a directory is missing before its last name. -/
theorem walk_notFound {d : Disk} {followLast : Bool} {here : Route} {names : List Segment} (last : Segment)
    (named : ∀ name ∈ names, name ≠ above ∧ (Text.Utf8.encode name).length ≤ longestName)
    (clear : ∀ before, before <+: names →
      d.get? (here ++ before) = none ∨ d.HoldsDirectory (here ++ before))
    (inside : d.HoldsDirectory here) (missing : d.get? (here ++ names) = none) (links : Nat) :
    d.walk followLast links here (names ++ [last]) = .error .notFound := by
  induction names generalizing here with
  | nil =>
      rw [List.append_nil] at missing
      exact absurd missing inside.ne_none
  | cons name rest induction =>
      obtain ⟨notAbove, short⟩ := named name List.mem_cons_self
      rcases clear [name] (List.prefix_append [name] rest) with absent | entered
      · obtain ⟨mode, held⟩ := inside
        rw [List.cons_append, walk, held]
        simp [notAbove, Nat.not_lt.mpr short, absent]
      · obtain ⟨mode, held⟩ := entered
        rw [List.cons_append, walk_down inside notAbove (Nat.not_lt.mpr short) held (by simp)]
        refine induction (fun other known => named other (List.mem_cons_of_mem name known)) ?_ ⟨mode, held⟩ ?_
        · intro before early
          have longer := clear (name :: before) (List.cons_prefix_cons.mpr ⟨rfl, early⟩)
          rwa [List.append_cons] at longer
        · rwa [List.append_cons] at missing

/-! ## Filling a directory -/

/-- Whether a path leads to a directory that has nothing below it. -/
structure IsEmptyAt (d : Disk) (directory : List Char) (place : Route) : Prop where
  /-- Everything on the disk stands in directories. -/
  wellFormed : d.WellFormed
  /-- The path leads to a directory. -/
  opened : ∃ mode, d.locate true directory = .ok ⟨place, some (.directory mode)⟩
  /-- There is nothing below it. -/
  empty : ∀ names, names ≠ [] → d.get? (place ++ names) = none

/-- Whether files fit below a directory together: none of them is in the way of another one. -/
structure FitTogether (directory : List Char) (files : List (Route × Bytes)) : Prop where
  /-- Each of them fits there. -/
  fits : ∀ file ∈ files, Fits directory file.1
  /-- None of them stands for the directory. -/
  below : ∀ file ∈ files, file.1 ≠ []
  /-- None of them stands on the way to another one, or in its place. -/
  apart : ∀ file ∈ files, ∀ other ∈ files, file.1 <+: other.1 → file = other

/-- Of some files that belong below an empty directory, those that are done are there, and besides them there
are only directories on the way to files. -/
structure Filled (start : Disk) (place : Route) (files done : List (Route × Bytes)) (d : Disk) : Prop where
  /-- Nothing else has changed. -/
  grown : Grown place start d
  /-- Only files that belong there have been written. -/
  known : ∀ file ∈ done, file ∈ files
  /-- What has been written is there. -/
  there : ∀ file ∈ done, ∃ mode, d.get? (place ++ file.1) = some (.file file.2 mode)
  /-- What is there has been written, or is a directory on the way to a file. -/
  only : ∀ names node, names ≠ [] → d.get? (place ++ names) = some node →
    (node.isDirectory = true ∧ ∃ file ∈ files, names <+: file.1 ∧ names ≠ file.1) ∨
      ∃ bytes mode, node = .file bytes mode ∧ (names, bytes) ∈ done

theorem IsEmptyAt.filled {d : Disk} {directory : List Char} {place : Route} (empty : IsEmptyAt d directory place)
    (files : List (Route × Bytes)) : Filled d place files [] d where
  grown := empty.wellFormed.grown place
  known := nofun
  there := nofun
  only names node more held := by
    rw [empty.empty names more] at held
    cases held

section Filling

variable {start d : Disk} {directory : List Char} {place : Route} {files done : List (Route × Bytes)}
  (empty : IsEmptyAt start directory place) (together : FitTogether directory files)

include empty in
theorem Filled.opened (filled : Filled start place files done d) :
    ∃ mode, d.locate true directory = .ok ⟨place, some (.directory mode)⟩ := by
  obtain ⟨mode, located⟩ := empty.opened
  obtain ⟨node, located', kind⟩ := filled.grown.locate located
  obtain ⟨mode', rfl⟩ := kind.of_directory
  exact ⟨mode', located'⟩

include empty in
theorem Filled.holdsDirectory (filled : Filled start place files done d) : d.HoldsDirectory place := by
  obtain ⟨mode, located⟩ := filled.opened empty
  exact ⟨mode, (walks_of_locate located).get?_route⟩

include empty in
theorem Filled.unlinked (filled : Filled start place files done d) (names : Route) (target : List Char) :
    d.get? (place ++ names) ≠ some (.link target) := by
  intro linked
  by_cases more : names = []
  · obtain ⟨mode, held⟩ := filled.holdsDirectory empty
    rw [more, List.append_nil, held] at linked
    cases linked
  · rcases filled.only names _ more linked with ⟨directory, -⟩ | ⟨bytes, mode, file, -⟩
    · cases directory
    · cases file

include empty together in
/-- On the way to a file there are only directories. -/
theorem Filled.clear (filled : Filled start place files done d) {file : Route × Bytes} (inside : file ∈ files)
    {names : Route} (way : names <+: file.1) (less : names ≠ file.1) :
    d.get? (place ++ names) = none ∨ d.HoldsDirectory (place ++ names) := by
  by_cases more : names = []
  · rw [more, List.append_nil]
    exact .inr (filled.holdsDirectory empty)
  · cases held : d.get? (place ++ names) with
    | none => exact .inl rfl
    | some node =>
        rcases filled.only names node more held with ⟨directory, -⟩ | ⟨bytes, mode, -, written⟩
        · cases node with
          | directory mode => exact .inr ⟨mode, held⟩
          | file bytes mode => cases directory
          | link target => cases directory
        · have same := together.apart _ (filled.known _ written) file inside way
          exact absurd (congrArg Prod.fst same) less

include empty together in
/-- Where the directory before its last name is there, the walk to a name on the way to a file ends at the
place of this name. -/
theorem Filled.locate_next (filled : Filled start place files done d) {file : Route × Bytes}
    (inside : file ∈ files) {names : Route} {name : Segment} (way : names ++ [name] <+: file.1)
    (entered : d.HoldsDirectory (place ++ names)) (followLast : Bool) :
    d.locate followLast (below directory (names ++ [name])) =
      .ok ⟨place ++ (names ++ [name]), d.get? (place ++ (names ++ [name]))⟩ := by
  obtain ⟨mode, located⟩ := filled.opened empty
  refine locate_below located (by simp) ((together.fits file inside).of_isPrefix way) ?_
    (filled.unlinked empty _)
  intro before early less
  rcases List.prefix_concat_iff.mp early with same | earlier
  · exact absurd same less
  · by_cases whole : before = names
    · exact whole ▸ entered
    · exact filled.grown.wellFormed.holdsDirectory_of_prefix ((List.prefix_append_right_inj place).mpr earlier)
        (by simpa using whole) entered.ne_none

include empty together in
/-- Where the directory before its last name is missing, nothing is found on the way to a file. -/
theorem Filled.locate_notFound (filled : Filled start place files done d) {file : Route × Bytes}
    (inside : file ∈ files) {names : Route} {name : Segment} (way : names ++ [name] <+: file.1)
    (missing : d.get? (place ++ names) = none) (followLast : Bool) :
    d.locate followLast (below directory (names ++ [name])) = .error .notFound := by
  have fits := (together.fits file inside).of_isPrefix way
  obtain ⟨mode, located⟩ := filled.opened empty
  obtain ⟨links, behind⟩ := (walks_of_locate located).walk_append
  rw [locate_below_eq_walk fits, behind followLast _ (by simp)]
  refine walk_notFound name (fun other known => (fits.named other (List.mem_append_left _ known)).2) ?_
    (filled.holdsDirectory empty) missing links
  intro before early
  have onTheWay : before <+: file.1 := early.trans ((List.prefix_append names [name]).trans way)
  refine filled.clear empty together inside onTheWay fun whole => ?_
  have shorter := early.length_le
  have longer := way.length_le
  rw [whole] at shorter
  rw [List.length_append, List.length_singleton] at longer
  omega

/-! ### Directories on the way -/

/-- Whether the directory of a path is there: neither the last link of the path, if it is one, nor where it
leads is missing. -/
structure IsThere (d : Disk) (path : List Char) : Prop where
  /-- Something has the name. -/
  occupied : ∃ route node, d.locate false path = .ok ⟨route, some node⟩
  /-- It leads to a directory. -/
  directory : d.isDirectoryAt path = .ok true

theorem ensures_makeDirectory_there {path : List Char} (there : IsThere d path) :
    Ensures (makeDirectory path) d (fun _ _ => False) fun fault t => fault.cause = .occupied ∧ t = d := by
  obtain ⟨route, node, located⟩ := there.occupied
  refine .bind (ensures_spot (fun spot found => ?_) fun cause missed => ?_)
  · rw [located] at found
    cases found
    exact .throw ⟨rfl, rfl⟩
  · rw [located] at missed
    cases missed

theorem ensures_acceptDirectory {path : List Char} (there : IsThere d path) (fault : Fault) :
    Ensures (acceptDirectory path fault) d (fun _ t => t = d) fun _ _ => False := by
  refine .bind (.get ?_)
  rw [there.directory]
  exact .pure rfl

theorem ensures_ensureDirectory_there {path : List Char} (there : IsThere d path) :
    Ensures (ensureDirectory path) d (fun _ t => t = d) fun _ _ => False := by
  refine .tryCatch ((ensures_makeDirectory_there there).mono nofun fun fault t stopped => ?_)
  obtain ⟨occupied, rfl⟩ := stopped
  rw [if_neg (by simp [occupied])]
  exact ensures_acceptDirectory there fault

theorem ensures_ensureUp_there {root : List Char} {up : List Segment} (there : IsThere d (pathUp root up)) :
    Ensures (ensureUp root up) d (fun _ t => t = d) fun _ _ => False := by
  cases up with
  | nil => exact ensures_ensureDirectory_there there
  | cons name up =>
      refine .tryCatch ((ensures_makeDirectory_there there).mono nofun fun fault t stopped => ?_)
      obtain ⟨occupied, rfl⟩ := stopped
      rw [if_neg (by simp [occupied])]
      exact ensures_acceptDirectory there fault

include empty together in
theorem Filled.isThere_directory (filled : Filled start place files done d) {file : Route × Bytes}
    (inside : file ∈ files) : IsThere d (below directory []) := by
  obtain ⟨mode, located⟩ := filled.opened empty
  have fits := (together.fits file inside).of_isPrefix List.nil_prefix
  have walks := walks_of_locate located
  obtain ⟨route, node, stands⟩ := walks.standing
  constructor
  · rw [locate_below_eq_walk fits, List.append_nil]
    exact ⟨route, node, stands.walk⟩
  · rw [isDirectoryAt, locate_below_eq_walk fits, List.append_nil, walks.walk]
    rfl

include empty together in
theorem Filled.isThere (filled : Filled start place files done d) {file : Route × Bytes}
    (inside : file ∈ files) {names : Route} {name : Segment} (way : names ++ [name] <+: file.1)
    (holds : d.HoldsDirectory (place ++ (names ++ [name]))) :
    IsThere d (below directory (names ++ [name])) := by
  obtain ⟨mode, held⟩ := id holds
  have entered : d.HoldsDirectory (place ++ names) := by
    have parent := filled.grown.wellFormed.parents _ holds.ne_none
    rwa [← List.append_assoc, List.dropLast_concat] at parent
  have located := filled.locate_next empty together inside way entered
  rw [held] at located
  exact ⟨⟨_, _, located false⟩, by rw [isDirectoryAt, located true]; rfl⟩

include empty together in
theorem Filled.takes (filled : Filled start place files done d) {file : Route × Bytes} (inside : file ∈ files)
    {names : Route} {name : Segment} (way : names ++ [name] <+: file.1)
    (entered : d.HoldsDirectory (place ++ names)) (missing : d.get? (place ++ (names ++ [name])) = none)
    (node : Node) (plain : ∀ target, node ≠ .link target) : d.Takes (place ++ (names ++ [name])) node := by
  refine ⟨plain, fun member => ?_, ?_⟩
  · rcases List.mem_append.mp member with before | known
    · exact filled.grown.wellFormed.names _ (filled.holdsDirectory empty).ne_none before
    · exact ((together.fits file inside).named _ (way.subset known)).2.1 rfl
  · rw [missing, ← List.append_assoc, List.dropLast_concat]
    exact entered

include empty together in
/-- A directory that is missing on the way to a file is one more directory there. -/
theorem Filled.putDirectory (filled : Filled start place files done d) {file : Route × Bytes}
    (inside : file ∈ files) {names : Route} {name : Segment} (way : names ++ [name] <+: file.1)
    (less : names ++ [name] ≠ file.1) (entered : d.HoldsDirectory (place ++ names))
    (missing : d.get? (place ++ (names ++ [name])) = none) (mode : Nat) :
    Filled start place files done (d.put (place ++ (names ++ [name])) (.directory mode)) := by
  have made := get?_put d (by simp : place ++ (names ++ [name]) ≠ []) (.directory mode)
  constructor
  · exact filled.grown.put (List.prefix_append _ _)
      (filled.takes empty together inside way entered missing _ nofun)
  · exact filled.known
  · intro written known
    obtain ⟨mode, held⟩ := filled.there written known
    refine ⟨mode, ?_⟩
    rw [made, if_neg, held]
    intro same
    rw [same, held] at missing
    cases missing
  · intro other node more held
    rw [made] at held
    by_cases same : place ++ (names ++ [name]) = place ++ other
    · rw [if_pos same] at held
      obtain rfl := List.append_cancel_left same
      cases held
      exact .inl ⟨rfl, file, inside, way, less⟩
    · rw [if_neg same] at held
      exact filled.only other node more held

include empty together in
theorem Filled.makeDirectory (filled : Filled start place files done d) {file : Route × Bytes}
    (inside : file ∈ files) {names : Route} {name : Segment} (way : names ++ [name] <+: file.1)
    (less : names ++ [name] ≠ file.1) (entered : d.HoldsDirectory (place ++ names)) :
    Ensures (Disk.makeDirectory (below directory (names ++ [name]))) d
      (fun _ t => Filled start place files done t ∧ t.HoldsDirectory (place ++ (names ++ [name])))
      fun fault t => fault.cause = .occupied ∧ t = d ∧ d.HoldsDirectory (place ++ (names ++ [name])) := by
  have located := filled.locate_next empty together inside way entered false
  refine .bind (ensures_spot (fun spot found => ?_) fun cause missed => ?_)
  · rw [located] at found
    cases found
    rcases filled.clear empty together inside way less with missing | holds
    · rw [missing]
      refine .modify ⟨filled.putDirectory empty together inside way less entered missing _, directoryMode, ?_⟩
      rw [get?_put d (by simp), if_pos rfl]
    · obtain ⟨mode, held⟩ := id holds
      rw [held]
      exact .throw ⟨rfl, rfl, holds⟩
  · rw [located] at missed
    cases missed

include empty together in
/-- Making a directory is done as well where it is there. -/
theorem Filled.makeOrAccept (filled : Filled start place files done d) {file : Route × Bytes}
    (inside : file ∈ files) {names : Route} {name : Segment} (way : names ++ [name] <+: file.1)
    (less : names ++ [name] ≠ file.1) (entered : d.HoldsDirectory (place ++ names))
    (handle : Fault → Change Unit) :
    Ensures (tryCatch (Disk.makeDirectory (below directory (names ++ [name]))) fun fault =>
        if fault.cause = .notFound then handle fault
        else acceptDirectory (below directory (names ++ [name])) fault) d
      (fun _ t => Filled start place files done t ∧ t.HoldsDirectory (place ++ (names ++ [name])))
      fun _ _ => False := by
  refine .tryCatch ((filled.makeDirectory empty together inside way less entered).mono (fun _ _ made => made)
    fun fault t stopped => ?_)
  obtain ⟨occupied, rfl, holds⟩ := stopped
  rw [if_neg (by simp [occupied])]
  refine (ensures_acceptDirectory (filled.isThere empty together inside way holds) fault).mono
    (fun _ t same => ?_) nofun
  rw [same]
  exact ⟨filled, holds⟩

include empty together in
/-- The directories on the way to a file are made from the last one up, as far as they are missing, and from
there down again. -/
theorem Filled.ensureUp (filled : Filled start place files done d) {file : Route × Bytes}
    (inside : file ∈ files) {names : Route} (way : names <+: file.1) (less : names ≠ file.1) :
    Ensures (Disk.ensureUp (rootOf directory) (segments directory ++ names).reverse) d
      (fun _ t => Filled start place files done t ∧ t.HoldsDirectory (place ++ names))
      fun _ _ => False := by
  induction names using List.reverseRecOn generalizing d with
  | nil =>
      have there := filled.isThere_directory empty together inside
      refine (ensures_ensureUp_there there).mono (fun _ t same => ?_) fun _ _ failed => failed.elim
      rw [same, List.append_nil]
      exact ⟨filled, filled.holdsDirectory empty⟩
  | append_singleton names name induction =>
      have onTheWay : names <+: file.1 := (List.prefix_append names [name]).trans way
      have before : names ≠ file.1 := by
        intro whole
        have longer := way.length_le
        rw [← whole, List.length_append, List.length_singleton] at longer
        omega
      have up : (segments directory ++ (names ++ [name])).reverse =
          name :: (segments directory ++ names).reverse := by simp
      have path : pathUp (rootOf directory) (name :: (segments directory ++ names).reverse) =
          below directory (names ++ [name]) := by rw [below, up]
      rw [up, Disk.ensureUp, path]
      rcases filled.clear empty together inside onTheWay before with missing | entered
      · have stopped : Ensures (Disk.makeDirectory (below directory (names ++ [name]))) d (fun _ _ => False)
            fun fault t => fault.cause = .notFound ∧ t = d := by
          have located := filled.locate_notFound empty together inside way missing false
          refine .bind (ensures_spot (fun spot found => ?_) fun cause missed => ?_)
          · rw [located] at found
            cases found
          · rw [located] at missed
            cases missed
            exact ⟨rfl, rfl⟩
        refine .tryCatch (stopped.mono (fun _ _ made => made.elim) fun fault t missed => ?_)
        obtain ⟨notFound, rfl⟩ := missed
        rw [if_pos notFound]
        refine .bind ((induction filled onTheWay before).mono (fun _ t made => ?_)
          fun _ _ failed => failed.elim)
        exact made.1.makeOrAccept empty together inside way less made.2 throw
      · exact filled.makeOrAccept empty together inside way less entered _

/-! ### Files -/

include together in
/-- The place of a file that has not been written yet is free. -/
theorem Filled.missing (filled : Filled start place files done d) {file : Route × Bytes} (inside : file ∈ files)
    (fresh : file ∉ done) : d.get? (place ++ file.1) = none := by
  cases held : d.get? (place ++ file.1) with
  | none => rfl
  | some node =>
      rcases filled.only _ node (together.below file inside) held with
        ⟨-, other, known, early, less⟩ | ⟨bytes, mode, -, written⟩
      · exact absurd (congrArg Prod.fst (together.apart file inside other known early)) less
      · have same := together.apart file inside _ (filled.known _ written) (List.prefix_refl _)
        exact absurd (same ▸ written) fresh

/-- A file at a free place is made empty, and then filled. -/
theorem ensures_writeFile_missing {path : List Char} {route : Route} (below : route ≠ [])
    (located : d.locate true path = .ok ⟨route, none⟩) (content : Bytes) :
    Ensures (Disk.writeFile path content) d
      (fun _ t => t = (d.put route (.file [] fileMode)).put route (.file content fileMode))
      fun _ _ => False := by
  have opened : Ensures (openFile path) d (fun route' t => route' = route ∧ t = d.put route (.file [] fileMode))
      fun _ _ => False := by
    refine .bind (ensures_spot (fun spot found => ?_) fun cause missed => ?_)
    · cases located.symm.trans found
      exact .bind (.modify (.pure ⟨rfl, rfl⟩))
    · cases located.symm.trans missed
  refine .bind (opened.mono (fun _ _ made => ?_) nofun)
  obtain ⟨rfl, rfl⟩ := made
  refine .bind (.get ?_)
  rw [get?_put d below, if_pos rfl]
  exact .modify rfl

include together in
/-- What has been put into the free place of a file is this file. -/
theorem Filled.putFile (filled : Filled start place files done d) {file : Route × Bytes} (inside : file ∈ files)
    (missing : d.get? (place ++ file.1) = none) {mode : Nat} (takes : d.Takes (place ++ file.1) (.file [] mode)) :
    Filled start place files (file :: done)
      ((d.put (place ++ file.1) (.file [] mode)).put (place ++ file.1) (.file file.2 mode)) := by
  have more := together.below file inside
  have below : place ++ file.1 ≠ [] := by simp [more]
  have inPlace : place <+: place ++ file.1 := List.prefix_append _ _
  have written (other : Route) :
      ((d.put (place ++ file.1) (.file [] mode)).put (place ++ file.1) (.file file.2 mode)).get? other =
        if place ++ file.1 = other then some (.file file.2 mode) else d.get? other := by
    rw [get?_put _ below, get?_put d below]
    split <;> rfl
  constructor
  · refine (filled.grown.put inPlace takes).put inPlace ⟨nofun, takes.2.1, ?_⟩
    rw [get?_put d below, if_pos rfl]
    trivial
  · intro other known
    rcases List.mem_cons.mp known with rfl | earlier
    · exact inside
    · exact filled.known other earlier
  · intro other known
    rw [written]
    rcases List.mem_cons.mp known with rfl | earlier
    · exact ⟨mode, if_pos rfl⟩
    · obtain ⟨mode', there⟩ := filled.there other earlier
      refine ⟨mode', ?_⟩
      rw [if_neg, there]
      intro same
      rw [← same, missing] at there
      cases there
  · intro other node more there
    rw [written] at there
    by_cases same : place ++ file.1 = place ++ other
    · rw [if_pos same] at there
      cases there
      obtain rfl := List.append_cancel_left same
      exact .inr ⟨file.2, mode, rfl, List.mem_cons_self⟩
    · rw [if_neg same] at there
      rcases filled.only other node more there with way | ⟨bytes, mode', plain, earlier⟩
      · exact .inl way
      · exact .inr ⟨bytes, mode', plain, List.mem_cons_of_mem file earlier⟩

include empty together in
/-- A file that is not there yet is written into its directory. -/
theorem Filled.writeFile (filled : Filled start place files done d) {file : Route × Bytes}
    (inside : file ∈ files) (fresh : file ∉ done) (entered : d.HoldsDirectory (place ++ file.1.dropLast)) :
    Ensures (Disk.writeFile (below directory file.1) file.2) d
      (fun _ t => Filled start place files (file :: done) t) fun _ _ => False := by
  obtain ⟨names, name, whole⟩ : ∃ names name, file.1 = names ++ [name] :=
    ⟨_, _, (List.dropLast_concat_getLast (together.below file inside)).symm⟩
  have way : names ++ [name] <+: file.1 := whole ▸ List.prefix_refl _
  have missing := filled.missing together inside fresh
  rw [whole, List.dropLast_concat] at entered
  have located := filled.locate_next empty together inside way entered true
  have takes := filled.takes empty together inside way entered (whole ▸ missing) (.file [] fileMode) nofun
  rw [← whole] at located takes
  rw [missing] at located
  refine (ensures_writeFile_missing (by simp [whole]) located file.2).mono (fun _ _ made => ?_) nofun
  rw [made]
  exact filled.putFile together inside missing takes

include empty together in
/-- A file is written once the directories on the way to it have been made. -/
theorem Filled.writeAt (filled : Filled start place files done d) {file : Route × Bytes} (inside : file ∈ files)
    (fresh : file ∉ done) :
    Ensures (do
        Disk.ensureDirectories (parent (below directory file.1))
        Disk.writeFile (below directory file.1) file.2) d
      (fun _ t => Filled start place files (file :: done) t) fun _ _ => False := by
  have areNames := (together.fits file inside).areNames
  have more := together.below file inside
  have areNamesUp : ∀ name ∈ file.1.dropLast, IsName name :=
    fun name known => areNames name ((List.dropLast_subset _) known)
  have less : file.1.dropLast ≠ file.1 := by
    intro same
    have shorter := congrArg List.length same
    have some := List.length_pos_iff.mpr more
    rw [List.length_dropLast] at shorter
    omega
  rw [parent_below directory areNames more, ensureDirectories_below directory areNamesUp]
  refine .bind ((filled.ensureUp empty together inside (List.dropLast_prefix _) less).mono
    (fun _ t made => ?_) nofun)
  exact made.1.writeFile empty together inside fresh made.2

end Filling

/-- Where all files have been written, they are the files below the directory. -/
theorem Filled.lists {start d : Disk} {directory : List Char} {place : Route} {files done : List (Route × Bytes)}
    (empty : IsEmptyAt start directory place)
    (filled : Filled start place files done d) (all : ∀ file ∈ files, file ∈ done)
    (ascending : files.Pairwise (·.1 < ·.1)) : Lists d place files where
  ascending := ascending
  exact names bytes := by
    constructor
    · intro known
      exact filled.there _ (all _ known)
    · rintro ⟨mode, held⟩
      have more : names ≠ [] := by
        rintro rfl
        obtain ⟨mode', directory⟩ := filled.holdsDirectory empty
        rw [List.append_nil, directory] at held
        cases held
      rcases filled.only names _ more held with ⟨directory, -⟩ | ⟨bytes', mode', same, written⟩
      · cases directory
      · cases same
        exact filled.known _ written

end Stencil.Disk
