import Mathlib
import Stencil.Proofs.Disk.Making
import Stencil.Proofs.Disk.Writing

/-!
# Laying files down

Files are written one after the other at any paths of a disk, and the directories above each of them are made before
it.  Whether this comes to its end or is stopped at one of the files, the files before it are in their places, and
besides them there are only new directories on the way.
-/

namespace Stencil.Disk

/-! ## Walks on a grown disk -/

section Again

variable {base : Route} {before after : Disk} {followLast : Bool}

/-- A walk ends at the same place once the disk has grown. -/
theorem Grown.walks_again (grown : Grown base before after) {links : Nat} {here : Route} {names : List Segment}
    {spot : Spot} (walks : Walks before followLast links here names spot) :
    Walks after followLast links here names ⟨spot.route, after.get? spot.route⟩ := by
  induction walks with
  | arrived => exact .arrived
  | up inside _ induction => exact .up (grown.holdsDirectory inside) induction
  | @missing _ here name inside named short absent =>
      cases held : after.get? (here ++ [name]) with
      | none => exact .missing (grown.holdsDirectory inside) named short held
      | some node =>
          refine .down (grown.holdsDirectory inside) named short held ?_ (held ▸ .arrived)
          rintro target rfl
          cases absent.symm.trans (grown.links _ target held)
  | stay inside named short linked stays =>
      obtain ⟨node', found, kind⟩ := grown.kept _ _ linked
      obtain rfl := kind.of_link
      rw [found]
      exact .stay (grown.holdsDirectory inside) named short found stays
  | follow inside named short linked follows _ induction =>
      obtain ⟨node', found, kind⟩ := grown.kept _ _ linked
      obtain rfl := kind.of_link
      exact .follow (grown.holdsDirectory inside) named short found follows induction
  | @down _ _ _ _ held _ inside named short found plain _ induction =>
      obtain ⟨held', found', kind⟩ := grown.kept _ _ found
      refine .down (grown.holdsDirectory inside) named short found' ?_ induction
      rintro target rfl
      cases found.symm.trans (grown.links _ target found')
      exact plain target rfl

theorem Grown.locate_again (grown : Grown base before after) {path : List Char} {spot : Spot}
    (located : before.locate followLast path = .ok spot) :
    after.locate followLast path = .ok ⟨spot.route, after.get? spot.route⟩ := by
  have again := (grown.walks_again (walks_of_locate located)).walk
  rw [Disk.locate] at located ⊢
  split at located
  · cases located
  · split at located
    · cases located
    · rw [if_neg ‹_›, if_neg ‹_›, grown.here]
      exact again

end Again

/-! ## Directories on the way -/

theorem isName_of_isSuffix {path : List Char} {up : List Segment} (early : up <:+ (segments path).reverse) :
    ∀ name ∈ up, IsName name :=
  fun _ known => isName_of_mem_segments (List.mem_reverse.mp (early.subset known))

/-- The path up to one of its names begins where the path does, and so does its walk. -/
theorem startOf_pathUp (here : Route) {path : List Char} {up : List Segment}
    (early : up <:+ (segments path).reverse) :
    startOf here (pathUp (rootOf path) up) = startOf here path :=
  startOf_congr here (isAbsolute_pathUp path (isName_of_isSuffix early))

/-- Whether a path leads to a place, or does so up to one of its names. -/
def OnWay (d : Disk) (path : List Char) (place : Route) : Prop :=
  ∃ up, up <:+ (segments path).reverse ∧ d.resolve (pathUp (rootOf path) up) = place

/-- Nothing on a disk has changed, but that there are new directories on the way of a path. -/
structure Widened (d : Disk) (path : List Char) (t : Disk) : Prop where
  /-- No link has changed. -/
  grown : Grown [] d t
  /-- What has changed is a directory now, and nothing was there before. -/
  only : ∀ place, t.get? place = d.get? place ∨
    d.get? place = none ∧ t.HoldsDirectory place ∧ OnWay d path place

theorem WellFormed.widened {d : Disk} (wellFormed : d.WellFormed) (path : List Char) : Widened d path d :=
  ⟨wellFormed.grown [], fun _ => .inl rfl⟩

/-- To make a directory is to put it where nothing is. -/
theorem ensures_makeDirectory_put {d : Disk} {path : List Char} (wellFormed : d.WellFormed)
    (start : d.HoldsDirectory (startOf d.here path)) :
    Ensures (makeDirectory path) d
      (fun _ t => d.get? (d.resolve path) = none ∧ d.Takes (d.resolve path) (.directory directoryMode) ∧
        t = d.put (d.resolve path) (.directory directoryMode))
      fun _ t => t = d := by
  refine .bind (ensures_spot (fun spot located => ?_) fun cause missed => rfl)
  obtain ⟨route, node⟩ := spot
  cases node with
  | some node => exact .throw rfl
  | none =>
      obtain ⟨isResolved, rfl, absent, parent, -⟩ := resolve_of_locate wellFormed start located (.inr rfl)
      obtain ⟨place, name, whole, holds⟩ := parent rfl
      simp only at absent whole
      refine .modify ⟨absent, ⟨nofun, isResolved.named, ?_⟩, rfl⟩
      rw [absent, whole, List.dropLast_concat]
      exact holds

section Ways

variable {d : Disk} {path : List Char} (start : d.HoldsDirectory (startOf d.here path))

include start in
theorem keeps_makeDirectory_widened {up : List Segment} (early : up <:+ (segments path).reverse) :
    Keeps (makeDirectory (pathUp (rootOf path) up)) (Widened d path) := by
  intro t widened
  have startUp : t.HoldsDirectory (startOf t.here (pathUp (rootOf path) up)) := by
    rw [startOf_pathUp t.here early]
    exact widened.grown.holdsDirectory_startOf start
  refine (ensures_makeDirectory_put widened.grown.wellFormed startUp).mono (fun _ u made => ?_) fun _ u same => ?_
  · obtain ⟨absent, takes, rfl⟩ := made
    have below : t.resolve (pathUp (rootOf path) up) ≠ [] := by
      intro root
      rw [root] at absent
      cases absent
    refine ⟨widened.grown.put List.nil_prefix takes, fun place => ?_⟩
    by_cases same : t.resolve (pathUp (rootOf path) up) = place
    · refine .inr ⟨?_, ⟨directoryMode, by rw [get?_put t below, if_pos same]⟩, up, early,
        by rw [← widened.grown.resolve, same]⟩
      rw [same] at absent
      rcases widened.only place with kept | ⟨absent', -⟩
      · exact kept.symm.trans absent
      · exact absent'
    · rw [get?_put t below, if_neg same]
      rcases widened.only place with kept | ⟨absent', holds, onWay⟩
      · exact .inl kept
      · exact .inr ⟨absent', takes.holdsDirectory holds, onWay⟩
  · exact same ▸ widened

theorem keeps_acceptDirectory_any {holds : Disk → Prop} (path : List Char) (fault : Fault) :
    Keeps (acceptDirectory path fault) holds := by
  intro t held
  refine .bind (.get ?_)
  split
  · exact .pure held
  · exact .throw held
  · exact .throw held

include start in
theorem keeps_ensureDirectory_widened {up : List Segment} (early : up <:+ (segments path).reverse) :
    Keeps (ensureDirectory (pathUp (rootOf path) up)) (Widened d path) := by
  refine .tryCatch (keeps_makeDirectory_widened start early) fun fault => ?_
  split
  · exact .throw fault
  · exact keeps_acceptDirectory_any _ fault

include start in
theorem keeps_ensureUp_widened {up : List Segment} (early : up <:+ (segments path).reverse) :
    Keeps (ensureUp (rootOf path) up) (Widened d path) := by
  induction up with
  | nil => exact keeps_ensureDirectory_widened start early
  | cons name up induction =>
      refine .tryCatch (keeps_makeDirectory_widened start early) fun fault => ?_
      split
      · exact .bind (induction ((List.suffix_cons name up).trans early)) fun _ =>
          keeps_ensureDirectory_widened start early
      · exact keeps_acceptDirectory_any _ fault

include start in
/-- Making the directories of a path makes new directories on its way, whether it is stopped or not. -/
theorem keeps_ensureDirectories_widened : Keeps (ensureDirectories path) (Widened d path) :=
  keeps_ensureUp_widened start (List.suffix_refl _)

end Ways

/-! ## One file -/

/-- Writes bytes into the file of a path, whose directories are made before. -/
def lay (path : List Char) (content : Bytes) : Change Unit := do
  ensureDirectories (parent path)
  writeFile path content

/-- A file is written only where its path leads to a place; otherwise nothing is done. -/
theorem ensures_writeFile_located {d : Disk} {path : List Char} (wellFormed : d.WellFormed)
    (start : d.HoldsDirectory (startOf d.here path)) (content : Bytes) :
    Ensures (writeFile path content) d (fun _ _ => ∃ node, d.locate true path = .ok ⟨d.resolve path, node⟩)
      fun _ t => t = d := by
  have opens : Ensures (openFile path) d (fun _ _ => ∃ node, d.locate true path = .ok ⟨d.resolve path, node⟩)
      fun _ t => t = d := by
    refine .bind (ensures_spot (fun spot located => ?_) fun _ _ => rfl)
    obtain ⟨-, resolved, -⟩ := resolve_of_locate wellFormed start located (.inl rfl)
    have found : ∃ node, d.locate true path = .ok ⟨d.resolve path, node⟩ := ⟨spot.node, resolved ▸ located⟩
    split
    · exact .throw rfl
    · exact .bind (.modify (.pure found))
    · exact .bind (.modify (.pure found))
  refine .bind (opens.mono (fun route t found => ?_) fun _ _ same => same)
  refine .bind (.get ?_)
  split
  · exact .modify found
  · exact .pure found

/-- The file of a path has been put into its place, and the path leads there. -/
theorem ensures_writeFile_laid {d : Disk} {path : List Char} (wellFormed : d.WellFormed)
    (start : d.HoldsDirectory (startOf d.here path)) (content : Bytes) :
    Ensures (writeFile path content) d
      (fun _ t => ∃ mode, Placed d path content mode t ∧
        t.locate true path = .ok ⟨d.resolve path, some (.file content mode)⟩)
      fun _ t => t = d := by
  refine ((ensures_writeFile wellFormed start content).and (ensures_writeFile_located wellFormed start content)).mono
    (fun _ t wrote => ?_) fun _ t stopped => stopped.2
  obtain ⟨⟨mode, placed⟩, node, located⟩ := wrote
  exact ⟨mode, placed, by rw [placed.grown.locate_again located, placed.held]⟩

theorem startOf_parent (here : Route) (path : List Char) : startOf here (parent path) = startOf here path :=
  startOf_pathUp here (List.tail_suffix _)

/-! ## Files one after the other -/

/-- Lays files down one after the other. -/
def layAll (files : List (List Char × Bytes)) : Change Unit :=
  files.forM fun file => lay file.1 file.2

theorem layAll_cons (file : List Char × Bytes) (rest : List (List Char × Bytes)) :
    layAll (file :: rest) = lay file.1 file.2 >>= fun _ => layAll rest := rfl

/-- Of some files that are laid down one after the other, those that are done are in their places, and besides them
there are only new directories on the way to those that have been tried. -/
structure LaidAll (start : Disk) (tried done : List (List Char × Bytes)) (d : Disk) : Prop where
  /-- No link has changed. -/
  grown : Grown [] start d
  /-- What is done leads to its place, where the bytes are those of a file that has the place. -/
  there : ∀ file ∈ done, ∃ other ∈ done, start.resolve other.1 = start.resolve file.1 ∧
    ∃ mode, d.locate true file.1 = .ok ⟨start.resolve file.1, some (.file other.2 mode)⟩
  /-- What has changed elsewhere is a directory now, and nothing was there before. -/
  only : ∀ place, (∀ file ∈ done, place ≠ start.resolve file.1) → d.get? place = start.get? place ∨
    start.get? place = none ∧ d.HoldsDirectory place ∧ ∃ file ∈ tried, OnWay start (parent file.1) place

theorem WellFormed.laidAll {d : Disk} (wellFormed : d.WellFormed) : LaidAll d [] [] d where
  grown := wellFormed.grown []
  there := nofun
  only _ _ := .inl rfl

theorem Grown.onWay {base : Route} {before after : Disk} (grown : Grown base before after) {path : List Char}
    {place : Route} (onWay : OnWay after path place) : OnWay before path place := by
  obtain ⟨up, early, same⟩ := onWay
  exact ⟨up, early, by rw [← grown.resolve, same]⟩

theorem get?_of_locate {d : Disk} {followLast : Bool} {path : List Char} {spot : Spot}
    (located : d.locate followLast path = .ok spot) : d.get? spot.route = spot.node :=
  (walks_of_locate located).get?_route

/-- A path that leads to something leads there as long as that does not change. -/
theorem Grown.locate_kept {base : Route} {before after : Disk} (grown : Grown base before after) {followLast : Bool}
    {path : List Char} {spot : Spot} (located : before.locate followLast path = .ok spot)
    (kept : after.get? spot.route = before.get? spot.route) : after.locate followLast path = .ok spot := by
  rw [grown.locate_again located, kept, get?_of_locate located]

section Steps

variable {start d t : Disk} {tried done : List (List Char × Bytes)} {file : List Char × Bytes}

/-- New directories on the way to one more file leave those that are done in their places. -/
theorem LaidAll.widen (laidAll : LaidAll start tried done d) (widened : Widened d (parent file.1) t) :
    LaidAll start (tried ++ [file]) done t := by
  refine ⟨laidAll.grown.trans widened.grown, fun old known => ?_, fun place elsewhere => ?_⟩
  · obtain ⟨other, known', same, mode, located⟩ := laidAll.there old known
    refine ⟨other, known', same, mode, widened.grown.locate_kept located ?_⟩
    rcases widened.only (start.resolve old.1) with kept | ⟨absent, -⟩
    · exact kept
    · cases absent.symm.trans (get?_of_locate located)
  · rcases widened.only place with kept | ⟨absent, holds, onWay⟩
    · rcases laidAll.only place elsewhere with kept' | ⟨absent', holds', other, known, onWay⟩
      · exact .inl (kept.trans kept')
      · exact .inr ⟨absent', widened.grown.holdsDirectory holds', other, List.mem_append_left _ known, onWay⟩
    · rcases laidAll.only place elsewhere with kept' | ⟨-, holds', -⟩
      · exact .inr ⟨kept'.symm.trans absent, holds, file, by simp, laidAll.grown.onWay onWay⟩
      · exact absurd absent holds'.ne_none

/-- A file that is put into its place joins those that are done. -/
theorem LaidAll.place (laidAll : LaidAll start tried done d) {content : Bytes} {mode : Nat}
    (same : file.2 = content) (placed : Placed d file.1 content mode t)
    (located : t.locate true file.1 = .ok ⟨d.resolve file.1, some (.file content mode)⟩) :
    LaidAll start tried (done ++ [file]) t := by
  have below := ne_nil_of_get?_eq_file placed.held
  have elsewhere {place : Route} (other : start.resolve file.1 ≠ place) : t.get? place = d.get? place := by
    rw [placed.placed, get?_put d below, laidAll.grown.resolve, if_neg other]
  rw [laidAll.grown.resolve] at located
  refine ⟨laidAll.grown.trans placed.grown, fun old known => ?_, fun place others => ?_⟩
  · rcases List.mem_append.mp known with known | last
    · obtain ⟨other, known', shared, mode', located'⟩ := laidAll.there old known
      by_cases here : start.resolve file.1 = start.resolve old.1
      · refine ⟨file, by simp, here, mode, ?_⟩
        have held : t.get? (start.resolve file.1) = some (.file content mode) := get?_of_locate located
        rw [placed.grown.locate_again located', ← here, held, same]
      · exact ⟨other, List.mem_append_left _ known', shared, mode', placed.grown.locate_kept located' (elsewhere here)⟩
    · obtain rfl := List.mem_singleton.mp last
      exact ⟨old, known, rfl, mode, same ▸ located⟩
  · rw [elsewhere (others file (by simp)).symm]
    rcases laidAll.only place fun old known => others old (List.mem_append_left _ known) with
      kept | ⟨absent, holds, onWay⟩
    · exact .inl kept
    · exact .inr ⟨absent, placed.grown.holdsDirectory holds, onWay⟩

/-- A file that is laid down joins those that are done, or is stopped and leaves new directories on its way. -/
theorem ensures_lay (laidAll : LaidAll start tried done d) (opens : d.HoldsDirectory (startOf d.here file.1)) :
    Ensures (lay file.1 file.2) d (fun _ t => LaidAll start (tried ++ [file]) (done ++ [file]) t)
      fun _ t => LaidAll start (tried ++ [file]) done t := by
  have opensUp : d.HoldsDirectory (startOf d.here (parent file.1)) := startOf_parent d.here file.1 ▸ opens
  have ways := keeps_ensureDirectories_widened opensUp d (laidAll.grown.wellFormed.widened _)
  refine .bind (ways.mono (fun _ t widened => ?_) fun _ t widened => laidAll.widen widened)
  have wider := laidAll.widen widened
  refine (ensures_writeFile_laid wider.grown.wellFormed (widened.grown.holdsDirectory_startOf opens) file.2).mono
    (fun _ u wrote => ?_) fun _ u same => same ▸ wider
  obtain ⟨mode, placed, located⟩ := wrote
  exact wider.place rfl placed located

end Steps

/-- Files are laid down one after the other up to the last one, or up to one that is stopped. -/
theorem ensures_layAll {start d : Disk} {done files : List (List Char × Bytes)} (laidAll : LaidAll start done done d)
    (opens : ∀ file ∈ files, start.HoldsDirectory (startOf start.here file.1)) :
    Ensures (layAll files) d
      (fun _ t => LaidAll start (done ++ files) (done ++ files) t)
      fun _ t => ∃ before file later, files = before ++ file :: later ∧
        LaidAll start (done ++ before ++ [file]) (done ++ before) t := by
  induction files generalizing d done with
  | nil => exact .pure (by rwa [List.append_nil])
  | cons file rest induction =>
      have first := laidAll.grown.holdsDirectory_startOf (opens file List.mem_cons_self)
      refine .bind ((ensures_lay laidAll first).mono (fun _ t laid => ?_) fun _ t stopped => ?_)
      · refine (induction laid fun other known => opens other (List.mem_cons_of_mem file known)).mono
          (fun _ u all => ?_) fun _ u stopped => ?_
        · rwa [List.append_assoc] at all
        · obtain ⟨before, other, later, rfl, stopped⟩ := stopped
          refine ⟨file :: before, other, later, rfl, ?_⟩
          simpa only [List.append_assoc, List.singleton_append] using stopped
      · exact ⟨[], file, rest, rfl, by rwa [List.append_nil]⟩

end Stencil.Disk
