import Stencil.Proofs.Disk.Path
import Stencil.Proofs.Disk.Walking

/-!
# Trees

A tree is what a directory has below it, without links.  The names below the directory lead straight down
from wherever its path leads.
-/

namespace Stencil.Disk

/-! ## Walks behind walks -/

theorem Walks.get?_route {d : Disk} {followLast : Bool} {links : Nat} {here : Route} {names : List Segment}
    {spot : Spot} (walks : Walks d followLast links here names spot) : d.get? spot.route = spot.node := by
  induction walks with
  | arrived => rfl
  | up _ _ induction => exact induction
  | missing _ _ _ absent => exact absent
  | stay _ _ _ linked _ => exact linked
  | follow _ _ _ _ _ _ induction => exact induction
  | down _ _ _ _ _ _ induction => exact induction

/-- From a directory that a walk arrives at, further names are walked as they are from its place. -/
theorem Walks.walk_append {d : Disk} {links : Nat} {here route : Route} {names : List Segment} {mode : Nat}
    (walks : Walks d true links here names ⟨route, some (.directory mode)⟩) :
    ∃ links', ∀ (followLast : Bool) (more : List Segment), more ≠ [] →
      d.walk followLast links here (names ++ more) = d.walk followLast links' route more := by
  generalize arrives : (⟨route, some (.directory mode)⟩ : Spot) = spot at walks
  induction walks with
  | arrived =>
      obtain rfl := congrArg Spot.route arrives
      exact ⟨_, fun _ _ _ => rfl⟩
  | up inside _ induction =>
      obtain ⟨links', behind⟩ := induction arrives
      refine ⟨links', fun followLast more some => ?_⟩
      rw [List.cons_append, walk_up inside, behind followLast more some]
  | missing => cases arrives
  | stay => cases arrives
  | follow inside named short linked _ _ induction =>
      obtain ⟨links', behind⟩ := induction arrives
      refine ⟨links', fun followLast more some => ?_⟩
      rw [List.cons_append, walk_follow inside named short linked (.inl (by simp [some])), ← List.append_assoc,
        behind followLast more some]
  | down inside named short held plain _ induction =>
      obtain ⟨links', behind⟩ := induction arrives
      refine ⟨links', fun followLast more some => ?_⟩
      rw [List.cons_append, walk_down inside named short held plain, behind followLast more some]

/-- Where following every link leads to a directory, something stands even if the last link is left. -/
theorem Walks.standing {d : Disk} {links : Nat} {here route : Route} {names : List Segment} {mode : Nat}
    (walks : Walks d true links here names ⟨route, some (.directory mode)⟩) :
    ∃ place node, Walks d false links here names ⟨place, some node⟩ := by
  generalize arrives : (⟨route, some (.directory mode)⟩ : Spot) = spot at walks
  induction walks with
  | @arrived links here =>
      have held : d.get? here = some (.directory mode) := (congrArg Spot.node arrives).symm
      exact ⟨here, .directory mode, held ▸ .arrived⟩
  | up inside _ induction =>
      obtain ⟨place, node, behind⟩ := induction arrives
      exact ⟨place, node, .up inside behind⟩
  | missing => cases arrives
  | stay => cases arrives
  | @follow _ here name rest target _ inside named short linked _ _ induction =>
      cases rest with
      | nil => exact ⟨here ++ [name], .link target, .stay inside named short linked rfl⟩
      | cons next rest =>
          obtain ⟨place, node, behind⟩ := induction arrives
          exact ⟨place, node, .follow inside named short linked (.inl (List.cons_ne_nil next rest)) behind⟩
  | down inside named short held plain _ induction =>
      obtain ⟨place, node, behind⟩ := induction arrives
      exact ⟨place, node, .down inside named short held plain behind⟩

/-- Names lead straight down through directories to what stands at their end, unless it is a link. -/
theorem Walks.straight {d : Disk} {followLast : Bool} {here : Route} {names : List Segment}
    (named : ∀ name ∈ names, name ≠ above ∧ (Text.Utf8.encode name).length ≤ longestName)
    (opened : ∀ before, before <+: names → before ≠ names → d.HoldsDirectory (here ++ before))
    (plain : ∀ target, d.get? (here ++ names) ≠ some (.link target)) (links : Nat) :
    Walks d followLast links here names ⟨here ++ names, d.get? (here ++ names)⟩ := by
  induction names generalizing here with
  | nil =>
      rw [List.append_nil]
      exact .arrived
  | cons name rest induction =>
      obtain ⟨notAbove, short⟩ := named name List.mem_cons_self
      have inside : d.HoldsDirectory here := by
        simpa using opened [] List.nil_prefix (List.cons_ne_nil name rest).symm
      have entered (more : rest ≠ []) : d.HoldsDirectory (here ++ [name]) :=
        opened [name] (List.prefix_append [name] rest) (by simpa using more.symm)
      rw [List.append_cons] at plain ⊢
      cases held : d.get? (here ++ [name]) with
      | none =>
          cases rest with
          | nil =>
              rw [List.append_nil, held]
              exact .missing inside notAbove (Nat.not_lt.mpr short) held
          | cons next rest => exact absurd held (entered (List.cons_ne_nil next rest)).ne_none
      | some node =>
          refine .down inside notAbove (Nat.not_lt.mpr short) held ?_ (induction ?_ ?_ plain)
          · rintro target rfl
            cases rest with
            | nil => exact plain target (by rwa [List.append_nil])
            | cons next rest =>
                obtain ⟨mode, directory⟩ := entered (List.cons_ne_nil next rest)
                rw [directory] at held
                cases held
          · exact fun other known => named other (List.mem_cons_of_mem name known)
          · intro before early less
            have longer := opened (name :: before) (List.cons_prefix_cons.mpr ⟨rfl, early⟩)
              (fun same => less (List.cons.inj same).2)
            rwa [List.append_cons] at longer

/-! ## Names below a directory -/

/-- Whether names fit below a directory: they can be names of something, and neither they nor the path that
they make are too long. -/
structure Fits (directory : List Char) (names : Route) : Prop where
  /-- Each of them can be the name of something in a directory. -/
  named : ∀ name ∈ names, IsName name ∧ name ≠ above ∧ (Text.Utf8.encode name).length ≤ longestName
  /-- A path can lead all the way. -/
  path : (Text.Utf8.encode (below directory names)).length ≤ longestPath

instance (directory : List Char) (names : Route) : Decidable (Fits directory names) :=
  decidable_of_iff
    ((∀ name ∈ names, IsName name ∧ name ≠ above ∧ (Text.Utf8.encode name).length ≤ longestName) ∧
      (Text.Utf8.encode (below directory names)).length ≤ longestPath)
    ⟨fun both => ⟨both.1, both.2⟩, fun fits => ⟨fits.named, fits.path⟩⟩

theorem Fits.areNames {directory : List Char} {names : Route} (fits : Fits directory names) :
    ∀ name ∈ names, IsName name :=
  fun name known => (fits.named name known).1

theorem pathUp_ne_nil (root : List Char) (up : List Segment) : pathUp root up ≠ [] := by
  rw [pathUp]
  split
  · exact List.cons_ne_nil _ _
  · rename_i some
    simpa using some

theorem locate_below_eq_walk {d : Disk} {followLast : Bool} {directory : List Char} {names : Route}
    (fits : Fits directory names) :
    d.locate followLast (below directory names) =
      d.walk followLast mostLinks (startOf d.here directory) (segments directory ++ names) := by
  have nonempty : (below directory names).isEmpty = false := by
    rw [List.isEmpty_eq_false_iff]
    exact pathUp_ne_nil _ _
  rw [locate, nonempty, if_neg Bool.false_ne_true, if_neg (Nat.not_lt.mpr fits.path),
    segments_below directory fits.areNames, startOf_congr d.here (isAbsolute_below directory fits.areNames)]

/-- Below a directory that is there, names that fit lead straight down. -/
theorem locate_below {d : Disk} {followLast : Bool} {directory : List Char} {place names : Route} {mode : Nat}
    (located : d.locate true directory = .ok ⟨place, some (.directory mode)⟩) (more : names ≠ [])
    (fits : Fits directory names)
    (opened : ∀ before, before <+: names → before ≠ names → d.HoldsDirectory (place ++ before))
    (plain : ∀ target, d.get? (place ++ names) ≠ some (.link target)) :
    d.locate followLast (below directory names) = .ok ⟨place ++ names, d.get? (place ++ names)⟩ := by
  obtain ⟨links, behind⟩ := (walks_of_locate located).walk_append
  rw [locate_below_eq_walk fits, behind followLast names more]
  exact (Walks.straight (fun name known => (fits.named name known).2) opened plain links).walk

/-! ## Trees -/

/-- What a directory has below it is a tree of files and directories. -/
structure Tree (d : Disk) (root : List Char) (place : Route) : Prop where
  /-- Everything stands in directories. -/
  wellFormed : d.WellFormed
  /-- The path of the directory leads to its place. -/
  opened : ∃ mode, d.locate true root = .ok ⟨place, some (.directory mode)⟩
  /-- There are no links below it. -/
  unlinked : ∀ names target, d.get? (place ++ names) ≠ some (.link target)
  /-- Names and paths below it are as the disk allows them. -/
  fits : ∀ names, d.get? (place ++ names) ≠ none → Fits root names

namespace Tree

variable {d : Disk} {root : List Char} {place : Route}

/-- What is listed on a disk shows whether a directory has a tree below it. -/
theorem of_forall_mem {mode : Nat} (opened : d.locate true root = .ok ⟨place, some (.directory mode)⟩)
    (notRoot : place ≠ [])
    (listed : ∀ entry ∈ d.places, (above ∉ entry.1 ∧ d.HoldsDirectory entry.1.dropLast) ∧
      (place <+: entry.1 → d.linkAt entry.1 = none ∧ Fits root (entry.1.drop place.length))) :
    Tree d root place := by
  have known {names : Route} (held : d.get? (place ++ names) ≠ none) :
      d.linkAt (place ++ names) = none ∧ Fits root names := by
    obtain ⟨entry, inside, same⟩ := (get?_ne_none_iff (by simp [notRoot])).mp held
    have found := (listed entry inside).2 (same ▸ List.prefix_append place names)
    rwa [same, List.drop_left] at found
  constructor
  · exact wellFormed_of_forall_mem fun entry inside => (listed entry inside).1
  · exact ⟨mode, opened⟩
  · intro names target linked
    have there : d.get? (place ++ names) ≠ none := by simp [linked]
    have plain := (known there).1
    rw [linkAt, linked] at plain
    cases plain
  · exact fun names held => (known held).2

theorem holdsDirectory (tree : Tree d root place) : d.HoldsDirectory place := by
  obtain ⟨mode, located⟩ := tree.opened
  exact ⟨mode, (walks_of_locate located).get?_route⟩

/-- What a tree has below its directory is found there. -/
theorem locate_below (tree : Tree d root place) {names : Route} (more : names ≠ [])
    {node : Node} (held : d.get? (place ++ names) = some node) (followLast : Bool) :
    d.locate followLast (below root names) = .ok ⟨place ++ names, some node⟩ := by
  obtain ⟨mode, located⟩ := tree.opened
  have there : d.get? (place ++ names) ≠ none := by simp [held]
  rw [Disk.locate_below located more (tree.fits names there) ?_ (tree.unlinked names), held]
  intro before early less
  exact tree.wellFormed.holdsDirectory_of_prefix ((List.prefix_append_right_inj place).mpr early)
    (by simpa using less) there

theorem isDirectoryAt_below (tree : Tree d root place) {names : Route} (more : names ≠ [])
    {node : Node} (held : d.get? (place ++ names) = some node) :
    d.isDirectoryAt (below root names) = .ok node.isDirectory := by
  rw [isDirectoryAt, tree.locate_below more held]

theorem read_below (tree : Tree d root place) {names : Route} (more : names ≠ []) {bytes : Bytes} {mode : Nat}
    (held : d.get? (place ++ names) = some (.file bytes mode)) : d.read (below root names) = .ok bytes := by
  rw [read, tree.locate_below more held]

end Tree

end Stencil.Disk
