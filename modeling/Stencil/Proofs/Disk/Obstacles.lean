import Mathlib
import Stencil.Proofs.Disk.Laying

/-!
# What is in the way of files

Below a directory without links, files can be laid down one after the other exactly if nothing that is there is in the
way of one of them, and none of them is in the way of another one.
-/

namespace Stencil.Disk

/-! ## Paths that go on behind a file -/

/-- A walk that goes on behind a file leads nowhere. -/
theorem Walks.walk_append_file {d : Disk} {links : Nat} {here route : Route} {names : List Segment} {content : Bytes}
    {mode : Nat} (walks : Walks d true links here names ⟨route, some (.file content mode)⟩) (followLast : Bool)
    {more : List Segment} (goesOn : more ≠ []) :
    d.walk followLast links here (names ++ more) = .error .notDirectory := by
  generalize arrives : (⟨route, some (.file content mode)⟩ : Spot) = spot at walks
  induction walks with
  | @arrived _ here =>
      have held : d.get? here = some (.file content mode) := (congrArg Spot.node arrives).symm
      obtain ⟨name, rest, rfl⟩ := List.exists_cons_of_ne_nil goesOn
      rw [List.nil_append, Disk.walk.eq_def]
      simp only [held]
  | up inside _ induction => rw [List.cons_append, walk_up inside, induction arrives]
  | missing => cases arrives
  | stay => cases arrives
  | follow inside named short linked _ _ induction =>
      rw [List.cons_append, walk_follow inside named short linked (.inl (by simp [goesOn])), ← List.append_assoc,
        induction arrives]
  | down inside named short held plain _ induction =>
      rw [List.cons_append, walk_down inside named short held plain, induction arrives]

theorem locate_behind_file {d : Disk} {path longer : List Char} {route : Route} {content : Bytes} {mode : Nat}
    (located : d.locate true path = .ok ⟨route, some (.file content mode)⟩)
    (root : isAbsolute longer = isAbsolute path) {more : List Segment} (goesOn : more ≠ [])
    (whole : segments longer = segments path ++ more) (followLast : Bool) (spot : Spot) :
    d.locate followLast longer ≠ .ok spot := by
  intro located'
  have walked := (walks_of_locate located').walk
  rw [startOf_congr d.here root, whole, (walks_of_locate located).walk_append_file followLast goesOn] at walked
  cases walked

/-! ## Directories without links -/

/-- A path leads to a directory that has no links below it. -/
structure IsPlain (d : Disk) (directory : List Char) (place : Route) : Prop where
  /-- Everything stands in directories. -/
  wellFormed : d.WellFormed
  /-- The path leads to the directory. -/
  opened : ∃ mode, d.locate true directory = .ok ⟨place, some (.directory mode)⟩
  /-- There are no links below it. -/
  unlinked : ∀ names, d.linkAt (place ++ names) = none

/-- Nothing is in the way of a file: on its way there are only directories, and it does not meet one in its place. -/
structure IsClear (d : Disk) (place names : Route) : Prop where
  /-- What is on the way is a directory. -/
  way : ∀ before, before <+: names → before ≠ names →
    d.get? (place ++ before) = none ∨ d.HoldsDirectory (place ++ before)
  /-- No directory has the place. -/
  free : ¬d.HoldsDirectory (place ++ names)

section Plain

variable {d t : Disk} {directory : List Char} {place names : Route} (plain : IsPlain d directory place)

include plain

theorem IsPlain.grown {base : Route} (grown : Grown base d t) : IsPlain t directory place := by
  refine ⟨grown.wellFormed, ?_, fun names => by rw [grown.linkAt, plain.unlinked]⟩
  obtain ⟨mode, located⟩ := plain.opened
  obtain ⟨node, located', kind⟩ := grown.locate located
  obtain ⟨mode', rfl⟩ := kind.of_directory
  exact ⟨mode', located'⟩

theorem IsPlain.holdsDirectory : d.HoldsDirectory place := by
  obtain ⟨mode, located⟩ := plain.opened
  exact ⟨mode, get?_of_locate located⟩

theorem IsPlain.get?_ne_link (target : List Char) : d.get? (place ++ names) ≠ some (.link target) := by
  intro linked
  have free := plain.unlinked names
  rw [linkAt, linked] at free
  cases free

/-- Where the directory before its last name is there, a path below leads to the place of its names. -/
theorem IsPlain.locate {name : Segment} (fits : Fits directory (names ++ [name]))
    (entered : d.HoldsDirectory (place ++ names)) (followLast : Bool) :
    d.locate followLast (below directory (names ++ [name])) =
      .ok ⟨place ++ (names ++ [name]), d.get? (place ++ (names ++ [name]))⟩ := by
  obtain ⟨mode, located⟩ := plain.opened
  refine locate_below located (by simp) fits ?_ fun _ => plain.get?_ne_link _
  intro before early less
  rcases List.prefix_concat_iff.mp early with same | earlier
  · exact absurd same less
  · by_cases whole : before = names
    · exact whole ▸ entered
    · exact plain.wellFormed.holdsDirectory_of_prefix ((List.prefix_append_right_inj place).mpr earlier)
        (by simpa using whole) entered.ne_none

/-- Where the directory before its last name is missing, a path below leads nowhere. -/
theorem IsPlain.locate_notFound {name : Segment} (fits : Fits directory (names ++ [name]))
    (way : ∀ before, before <+: names → d.get? (place ++ before) = none ∨ d.HoldsDirectory (place ++ before))
    (missing : d.get? (place ++ names) = none) (followLast : Bool) :
    d.locate followLast (below directory (names ++ [name])) = .error .notFound := by
  obtain ⟨mode, located⟩ := plain.opened
  obtain ⟨links, behind⟩ := (walks_of_locate located).walk_append
  rw [locate_below_eq_walk fits, behind followLast _ (by simp)]
  exact walk_notFound name (fun other known => (fits.named other (List.mem_append_left _ known)).2) way
    plain.holdsDirectory missing links

/-- A path below that is there resolves to the place of its names. -/
theorem IsPlain.resolve (fits : Fits directory names) : d.resolve (below directory names) = place ++ names := by
  obtain ⟨mode, located⟩ := plain.opened
  obtain ⟨count, leads⟩ := (walks_of_locate located).leads (.inl rfl)
  have straight : Leads d.linkAt place names (place ++ names) 0 :=
    .straight (fun member => (fits.named above member).2.1 rfl) fun before _ _ => plain.unlinked before
  have whole : Leads d.linkAt (startOf d.here (below directory names)) (segments (below directory names))
      (place ++ names) (count + 0) := by
    rw [segments_below directory fits.areNames, startOf_congr d.here (isAbsolute_below directory fits.areNames)]
    exact leads.append straight
  refine resolve_of_leads whole fun member => ?_
  rcases List.mem_append.mp member with before | known
  · exact plain.wellFormed.names _ plain.holdsDirectory.ne_none before
  · exact (fits.named above known).2.1 rfl

/-! ## Paved ways -/

omit plain in
/-- Paving makes directories on the way where nothing was, and nothing else. -/
theorem get?_pave (d : Disk) (route other : Route) : (d.pave route).get? other = d.get? other ∨
    d.get? other = none ∧ (d.pave route).get? other = some (.directory directoryMode) ∧ other <+: route := by
  induction route using List.reverseRecOn with
  | nil => exact .inl rfl
  | append_singleton route name induction =>
      rw [pave_concat]
      cases held : (d.pave route).get? (route ++ [name]) with
      | some node =>
          rw [fillIn_of_ne_none (by simp [held])]
          rcases induction with kept | ⟨absent, made, early⟩
          · exact .inl kept
          · exact .inr ⟨absent, made, early.trans (List.prefix_append route [name])⟩
      | none =>
          rw [fillIn, held]
          simp only
          rw [get?_put _ (by simp)]
          by_cases same : route ++ [name] = other
          · rw [if_pos same]
            rw [← same] at induction ⊢
            rcases induction with kept | ⟨absent, -⟩
            · exact .inr ⟨kept.symm.trans held, rfl, List.prefix_refl _⟩
            · exact .inr ⟨absent, rfl, List.prefix_refl _⟩
          · rw [if_neg same]
            rcases induction with kept | ⟨absent, made, early⟩
            · exact .inl kept
            · exact .inr ⟨absent, made, early.trans (List.prefix_append route [name])⟩

/-- The way to a place is paved, and no link has changed. -/
structure Leveled (d : Disk) (place : Route) (t : Disk) : Prop where
  /-- The way is paved. -/
  paved : t = d.pave place
  /-- The place is a directory. -/
  holds : t.HoldsDirectory place
  /-- No link has changed. -/
  grown : Grown [] d t

omit plain in
theorem Leveled.of_holdsDirectory (wellFormed : d.WellFormed) (holds : d.HoldsDirectory place) : Leveled d place d :=
  ⟨(pave_of_ne_none wellFormed holds.ne_none).symm, holds, wellFormed.grown []⟩

/-- In a directory that is there, the directory of one more name is made or was there. -/
theorem Leveled.makeOrAccept {name : Segment} (leveled : Leveled d (place ++ names) t)
    (fits : Fits directory (names ++ [name]))
    (clear : d.get? (place ++ (names ++ [name])) = none ∨ d.HoldsDirectory (place ++ (names ++ [name])))
    (handle : Fault → Change Unit) :
    Ensures (tryCatch (makeDirectory (below directory (names ++ [name]))) fun fault =>
        if fault.cause = .notFound then handle fault
        else acceptDirectory (below directory (names ++ [name])) fault) t
      (fun _ u => Leveled d (place ++ (names ++ [name])) u) fun _ _ => False := by
  have plain' := plain.grown leveled.grown
  have located := plain'.locate fits leveled.holds
  have paved : d.pave (place ++ (names ++ [name])) = t.fillIn (place ++ (names ++ [name])) := by
    rw [← List.append_assoc, pave_concat, ← leveled.paved]
  have below' : place ++ (names ++ [name]) ≠ [] := by simp
  cases held : t.get? (place ++ (names ++ [name])) with
  | none =>
      rw [held] at located
      have takes : t.Takes (place ++ (names ++ [name])) (.directory directoryMode) := by
        refine ⟨nofun, fun member => ?_, ?_⟩
        · rcases List.mem_append.mp member with before | known
          · exact plain'.wellFormed.names _ plain'.holdsDirectory.ne_none before
          · exact (fits.named above known).2.1 rfl
        · rw [held, ← List.append_assoc, List.dropLast_concat]
          exact leveled.holds
      refine .tryCatch (.bind (ensures_spot (fun spot found => ?_) fun cause missed => ?_))
      · cases (located false).symm.trans found
        refine .modify ⟨by rw [paved, fillIn, held], ⟨directoryMode, by rw [get?_put t below', if_pos rfl]⟩,
          leveled.grown.put List.nil_prefix takes⟩
      · cases (located false).symm.trans missed
  | some node =>
      have holds : t.HoldsDirectory (place ++ (names ++ [name])) := by
        rcases clear with absent | holds
        · rcases leveled.paved ▸ get?_pave d (place ++ names) (place ++ (names ++ [name])) with kept | ⟨-, made, -⟩
          · cases held.symm.trans (kept.trans absent)
          · exact ⟨_, made⟩
        · exact leveled.grown.holdsDirectory holds
      obtain ⟨mode, directory'⟩ := id holds
      rw [directory'] at located
      have there : IsThere t (below directory (names ++ [name])) :=
        ⟨⟨_, _, located false⟩, by rw [isDirectoryAt, located true]; rfl⟩
      refine .tryCatch ((ensures_makeDirectory_there there).mono (fun _ _ made => made.elim) fun fault u stopped => ?_)
      obtain ⟨occupied, rfl⟩ := stopped
      rw [if_neg (by simp [occupied])]
      refine (ensures_acceptDirectory there fault).mono (fun _ v same => ?_) fun _ _ failed => failed
      rw [same]
      exact ⟨by rw [paved, fillIn_of_ne_none (by simp [held])], holds, leveled.grown⟩

/-- The directories on a way that is clear are made, and nothing stops this. -/
theorem ensures_ensureUp_clear (fits : Fits directory names)
    (way : ∀ before, before <+: names → d.get? (place ++ before) = none ∨ d.HoldsDirectory (place ++ before)) :
    Ensures (ensureUp (rootOf directory) (segments directory ++ names).reverse) d
      (fun _ t => Leveled d (place ++ names) t) fun _ _ => False := by
  induction names using List.reverseRecOn with
  | nil =>
      obtain ⟨mode, located⟩ := plain.opened
      have walks := walks_of_locate located
      obtain ⟨route, node, stands⟩ := walks.standing
      have there : IsThere d (below directory []) := by
        constructor
        · rw [locate_below_eq_walk fits, List.append_nil]
          exact ⟨route, node, stands.walk⟩
        · rw [isDirectoryAt, locate_below_eq_walk fits, List.append_nil, walks.walk]
          rfl
      refine (ensures_ensureUp_there there).mono (fun _ t same => ?_) fun _ _ failed => failed
      rw [same, List.append_nil]
      exact .of_holdsDirectory plain.wellFormed plain.holdsDirectory
  | append_singleton names name induction =>
      have fitsUp := fits.of_isPrefix (List.prefix_append names [name])
      have wayUp : ∀ before, before <+: names →
          d.get? (place ++ before) = none ∨ d.HoldsDirectory (place ++ before) :=
        fun before early => way before (early.trans (List.prefix_append names [name]))
      have up : (segments directory ++ (names ++ [name])).reverse =
          name :: (segments directory ++ names).reverse := by simp
      have path : pathUp (rootOf directory) (name :: (segments directory ++ names).reverse) =
          below directory (names ++ [name]) := by rw [below, up]
      have clear := way (names ++ [name]) (List.prefix_refl _)
      rw [up, ensureUp, path]
      rcases wayUp names (List.prefix_refl _) with missing | entered
      · have stopped : Ensures (makeDirectory (below directory (names ++ [name]))) d (fun _ _ => False)
            fun fault t => fault.cause = .notFound ∧ t = d := by
          have located := plain.locate_notFound fits wayUp missing false
          refine .bind (ensures_spot (fun spot found => ?_) fun cause missed => ?_)
          · cases located.symm.trans found
          · cases located.symm.trans missed
            exact ⟨rfl, rfl⟩
        refine .tryCatch (stopped.mono (fun _ _ made => made.elim) fun fault t missed => ?_)
        obtain ⟨notFound, rfl⟩ := missed
        rw [if_pos notFound]
        refine .bind ((induction fitsUp wayUp).mono (fun _ u leveled => ?_) fun _ _ failed => failed)
        exact leveled.makeOrAccept plain fits clear throw
      · exact (Leveled.of_holdsDirectory plain.wellFormed entered).makeOrAccept plain fits clear _

end Plain

/-! ## One file -/

/-- A file is written where its path leads to a place that no directory has. -/
theorem ensures_writeFile_found {d : Disk} {path : List Char} {route : Route} {node : Option Node}
    (located : d.locate true path = .ok ⟨route, node⟩) (free : ∀ mode, node ≠ some (.directory mode))
    (content : Bytes) : Ensures (writeFile path content) d (fun _ _ => True) fun _ _ => False := by
  have opens : Ensures (openFile path) d (fun _ _ => True) fun _ _ => False := by
    refine .bind (ensures_spot (fun spot found => ?_) fun cause missed => ?_)
    · cases located.symm.trans found
      split
      · rename_i mode same
        exact absurd (congrArg Spot.node same) (free mode)
      · exact .bind (.modify (.pure trivial))
      · exact .bind (.modify (.pure trivial))
    · cases located.symm.trans missed
  refine .bind (opens.mono (fun route t _ => ?_) fun _ _ failed => failed)
  refine .bind (.get ?_)
  split
  · exact .modify trivial
  · exact .pure trivial

section OneFile

variable {d : Disk} {directory : List Char} {place names : Route} (plain : IsPlain d directory place)
  (fits : Fits directory names) (inside : names ≠ [])

include plain fits inside

/-- A file in whose way nothing is has its way paved, and is put into its place. -/
theorem ensures_lay_clear (clear : IsClear d place names) (content : Bytes) :
    Ensures (lay (below directory names) content) d
      (fun _ t => Grown [] d t ∧
        ∃ mode, t = (d.pave (place ++ names.dropLast)).put (place ++ names) (.file content mode))
      fun _ _ => False := by
  obtain ⟨up, name, rfl⟩ : ∃ up name, names = up ++ [name] := ⟨_, _, (List.dropLast_concat_getLast inside).symm⟩
  have less {before : Route} (early : before <+: up) : before ≠ up ++ [name] := by
    rintro rfl
    have short := early.length_le
    rw [List.length_append, List.length_singleton] at short
    omega
  have ways := ensures_ensureUp_clear plain (fits.of_isPrefix (List.prefix_append up [name])) fun before early =>
    clear.way before (early.trans (List.prefix_append up [name])) (less early)
  rw [lay, parent_below directory fits.areNames (by simp), List.dropLast_concat,
    ensureDirectories_below directory (fits.of_isPrefix (List.prefix_append up [name])).areNames]
  refine .bind (ways.mono (fun _ t leveled => ?_) fun _ _ failed => failed)
  have plain' := plain.grown leveled.grown
  have located := plain'.locate fits leveled.holds true
  have free : ∀ mode, t.get? (place ++ (up ++ [name])) ≠ some (.directory mode) := by
    intro mode held
    rcases leveled.paved ▸ get?_pave d (place ++ up) (place ++ (up ++ [name])) with kept | ⟨-, -, early⟩
    · exact clear.free ⟨mode, kept.symm.trans held⟩
    · exact less ((List.prefix_append_right_inj place).mp early) rfl
  have start : t.HoldsDirectory (startOf t.here (below directory (up ++ [name]))) := by
    obtain ⟨mode, opened⟩ := plain'.opened
    rw [startOf_congr t.here (isAbsolute_below directory fits.areNames)]
    exact holdsDirectory_start (walks_of_locate opened)
  refine ((ensures_writeFile_found located free content).and
    (ensures_writeFile_laid leveled.grown.wellFormed start content)).mono (fun _ u wrote => ?_)
      fun _ _ failed => failed.1
  obtain ⟨-, mode, placed, -⟩ := wrote
  exact ⟨leveled.grown.trans placed.grown, mode, by rw [placed.placed, plain'.resolve fits, leveled.paved]⟩

omit inside in
/-- What is laid down had nothing in its way. -/
theorem isClear_of_locate {t : Disk} (grown : Grown [] d t) {content : Bytes} {mode : Nat}
    (located : t.locate true (below directory names) = .ok ⟨place ++ names, some (.file content mode)⟩) :
    IsClear d place names := by
  constructor
  · intro before early less
    cases held : d.get? (place ++ before) with
    | none => exact .inl rfl
    | some node =>
        cases node with
        | directory mode' => exact .inr ⟨mode', held⟩
        | link target => exact absurd held (plain.get?_ne_link target)
        | file old mode' =>
            obtain ⟨more, rfl⟩ := early
            have fits' := fits.of_isPrefix (List.prefix_append before more)
            have below' : before ≠ [] := by
              rintro rfl
              obtain ⟨mode'', directory'⟩ := plain.holdsDirectory
              rw [List.append_nil, directory'] at held
              cases held
            obtain ⟨_, opened⟩ := plain.opened
            have there : d.locate true (below directory before) = .ok ⟨place ++ before, some (.file old mode')⟩ := by
              rw [locate_below opened below' fits' ?_ fun _ => plain.get?_ne_link _, held]
              intro first early less'
              exact plain.wellFormed.holdsDirectory_of_prefix ((List.prefix_append_right_inj place).mpr early)
                (by simpa using less') (by simp [held])
            obtain ⟨node, there', kind⟩ := grown.locate there
            cases node with
            | directory mode => cases kind
            | link target => cases kind
            | file new mode =>
                have whole : segments (below directory (before ++ more)) =
                    segments (below directory before) ++ more := by
                  rw [segments_below directory fits.areNames, segments_below directory fits'.areNames,
                    List.append_assoc]
                refine absurd located (locate_behind_file there' ?_ (by simpa using less) whole true _)
                rw [isAbsolute_below directory fits.areNames, isAbsolute_below directory fits'.areNames]
  · intro holds
    obtain ⟨mode', held⟩ := grown.holdsDirectory holds
    cases held.symm.trans (get?_of_locate located)

omit fits inside in
/-- Nothing is in the way of a file in a directory that is not there yet. -/
theorem IsPlain.isClear_of_absent {name : Segment} (absent : d.get? (place ++ [name]) = none) (more : Route) :
    IsClear d place (name :: more) := by
  have none (rest : Route) : d.get? (place ++ name :: rest) = none := by
    cases rest with
    | nil => exact absent
    | cons next rest =>
        by_contra there
        have early : place ++ [name] <+: place ++ name :: next :: rest := ⟨next :: rest, by simp⟩
        obtain ⟨mode, held⟩ := plain.wellFormed.holdsDirectory_of_prefix early (by simp) there
        cases held.symm.trans absent
  constructor
  · intro before early _
    cases before with
    | nil => exact .inr (by rw [List.append_nil]; exact plain.holdsDirectory)
    | cons first rest =>
        obtain ⟨rfl, -⟩ := List.cons_prefix_cons.mp early
        exact .inl (none rest)
  · rintro ⟨mode, held⟩
    cases held.symm.trans (none more)

end OneFile

/-! ## All files -/

/-- The files of names below a directory, with their paths. -/
def filesBelow (directory : List Char) (files : List (Route × Bytes)) : List (List Char × Bytes) :=
  files.map fun file => (below directory file.1, file.2)

theorem below_below (directory : List Char) {names more : Route} (areNames : ∀ name ∈ names, IsName name) :
    below (below directory names) more = below directory (names ++ more) := by
  rw [below, rootOf_below directory areNames, segments_below directory areNames, List.append_assoc, below]

theorem filesBelow_below (directory : List Char) {names : Route} (areNames : ∀ name ∈ names, IsName name)
    (files : List (Route × Bytes)) :
    filesBelow (below directory names) files =
      filesBelow directory (files.map fun file => (names ++ file.1, file.2)) := by
  rw [filesBelow, filesBelow, List.map_map]
  exact List.map_congr_left fun file _ => by rw [Function.comp, below_below directory areNames]

/-- Whether nothing is in the way of files, neither what is there nor one of them. -/
structure AreClear (d : Disk) (place : Route) (files : List (Route × Bytes)) : Prop where
  /-- Nothing that is there is in the way of one of them. -/
  clear : ∀ file ∈ files, IsClear d place file.1
  /-- None of them stands on the way to another one. -/
  apart : ∀ file ∈ files, ∀ other ∈ files, file.1 <+: other.1 → file.1 = other.1

section AllFiles

variable {d : Disk} {directory : List Char} {place : Route} {files : List (Route × Bytes)}

/-- What is clear stays so when one of the files is put into its place. -/
theorem AreClear.step {file : Route × Bytes} (areClear : AreClear d place (file :: files)) (inside : file.1 ≠ [])
    (content : Bytes) (mode : Nat) :
    AreClear ((d.pave (place ++ file.1.dropLast)).put (place ++ file.1) (.file content mode)) place files := by
  have below' : place ++ file.1 ≠ [] := by simp [inside]
  have shorter {names : Route} (early : names <+: file.1.dropLast) : names ≠ file.1 := by
    rintro rfl
    have short := early.length_le
    have some := List.length_pos_of_ne_nil inside
    rw [List.length_dropLast] at short
    omega
  refine ⟨fun other known => ⟨fun before early less => ?_, ?_⟩, fun first known second known' =>
    areClear.apart first (List.mem_cons_of_mem file known) second (List.mem_cons_of_mem file known')⟩
  · rw [HoldsDirectory, get?_put _ below']
    by_cases same : place ++ file.1 = place ++ before
    · obtain rfl := List.append_cancel_left same
      exact absurd (areClear.apart file List.mem_cons_self other (List.mem_cons_of_mem file known) early) less
    · rw [if_neg same]
      rcases get?_pave d (place ++ file.1.dropLast) (place ++ before) with kept | ⟨-, made, -⟩
      · rw [kept]
        exact (areClear.clear other (List.mem_cons_of_mem file known)).way before early less
      · exact .inr ⟨_, made⟩
  · rw [HoldsDirectory, get?_put _ below']
    split
    · rintro ⟨_, ⟨⟩⟩
    · rcases get?_pave d (place ++ file.1.dropLast) (place ++ other.1) with kept | ⟨-, -, early⟩
      · rw [kept]
        exact (areClear.clear other (List.mem_cons_of_mem file known)).free
      · have early := (List.prefix_append_right_inj place).mp early
        exact absurd (areClear.apart other (List.mem_cons_of_mem file known) file List.mem_cons_self
          (early.trans (List.dropLast_prefix _))) (shorter early)

/-- Nothing stops files in whose way nothing is. -/
theorem exists_layAll_of_areClear (plain : IsPlain d directory place) (fits : ∀ file ∈ files, Fits directory file.1)
    (inside : ∀ file ∈ files, file.1 ≠ []) (areClear : AreClear d place files) :
    ∃ t, (layAll (filesBelow directory files)).run d = (.ok (), t) := by
  induction files generalizing d with
  | nil => exact ⟨d, rfl⟩
  | cons file rest induction =>
      have first := ensures_lay_clear plain (fits file List.mem_cons_self) (inside file List.mem_cons_self)
        (areClear.clear file List.mem_cons_self) file.2
      obtain ⟨⟨⟩, t, ran, grown, mode, rfl⟩ | ⟨_, _, _, failed⟩ := first.outcome
      · obtain ⟨u, behind⟩ := induction (plain.grown grown)
          (fun other known => fits other (List.mem_cons_of_mem file known))
          (fun other known => inside other (List.mem_cons_of_mem file known))
          (areClear.step (inside file List.mem_cons_self) file.2 mode)
        refine ⟨u, ?_⟩
        rw [filesBelow, List.map_cons, layAll_cons, run_bind, ran]
        exact behind
      · cases failed

/-- Below a directory without links, files are laid down exactly if nothing is in their way. -/
theorem exists_layAll_iff (plain : IsPlain d directory place) (here : d.HoldsDirectory d.here)
    (fits : ∀ file ∈ files, Fits directory file.1) (inside : ∀ file ∈ files, file.1 ≠ []) :
    (∃ t, (layAll (filesBelow directory files)).run d = (.ok (), t)) ↔
      AreClear d place files := by
  refine ⟨?_, exists_layAll_of_areClear plain fits inside⟩
  rintro ⟨t, ran⟩
  have laid : LaidAll d (filesBelow directory files) (filesBelow directory files) t := by
    have opens : ∀ file ∈ filesBelow directory files, d.HoldsDirectory (startOf d.here file.1) :=
      fun file _ => here.startOf file.1
    have ensures := ensures_layAll plain.wellFormed.laidAll opens
    rw [Ensures, ran] at ensures
    exact ensures
  have there {file : Route × Bytes} (known : file ∈ files) :
      ∃ content mode, t.locate true (below directory file.1) = .ok ⟨place ++ file.1, some (.file content mode)⟩ := by
    obtain ⟨_, -, -, mode, located⟩ := laid.there _ (List.mem_map_of_mem known)
    rw [plain.resolve (fits file known)] at located
    exact ⟨_, mode, located⟩
  constructor
  · intro file known
    obtain ⟨content, mode, located⟩ := there known
    exact isClear_of_locate plain (fits file known) laid.grown located
  · intro file known other known' early
    obtain ⟨more, whole⟩ := early
    by_contra differs
    obtain ⟨_, _, located⟩ := there known
    obtain ⟨_, _, located'⟩ := there known'
    have goesOn : more ≠ [] := by
      rintro rfl
      exact differs (by rw [← whole, List.append_nil])
    have longer : segments (below directory other.1) = segments (below directory file.1) ++ more := by
      rw [segments_below directory (fits other known').areNames, segments_below directory (fits file known).areNames,
        ← whole, List.append_assoc]
    refine locate_behind_file located ?_ goesOn longer true _ located'
    rw [isAbsolute_below directory (fits other known').areNames, isAbsolute_below directory (fits file known).areNames]

end AllFiles

end Stencil.Disk
