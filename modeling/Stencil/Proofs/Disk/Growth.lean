import Stencil.Disk.Operations
import Stencil.Proofs.Disk.Resolving
import Stencil.Proofs.Work

/-!
# Growing disks

A disk grows below a place when files and directories are made there and when the contents and modes of
those that are there change.  No link appears, changes or goes, so walks that found something still find it
at the same spot.
-/

namespace Stencil.Disk

/-- Whether two nodes are of one kind; links are if they hold the same path. -/
def Node.SameKind : Node → Node → Prop
  | .file _ _, .file _ _ => True
  | .directory _, .directory _ => True
  | .link target, .link target' => target = target'
  | _, _ => False

theorem Node.SameKind.refl (node : Node) : node.SameKind node := by
  cases node <;> simp [SameKind]

theorem Node.SameKind.trans {first second third : Node} (one : first.SameKind second)
    (two : second.SameKind third) : first.SameKind third := by
  cases first <;> cases second <;> cases third <;> simp_all [SameKind]

theorem Node.SameKind.of_directory {mode : Nat} {node : Node} (kind : (Node.directory mode).SameKind node) :
    ∃ mode', node = .directory mode' := by
  cases node with
  | directory mode' => exact ⟨mode', rfl⟩
  | file content mode' => cases kind
  | link target => cases kind

theorem Node.SameKind.of_link {target : List Char} {node : Node} (kind : (Node.link target).SameKind node) :
    node = .link target := by
  cases node with
  | directory mode => cases kind
  | file content mode => cases kind
  | link target' => exact congrArg Node.link (Eq.symm kind)

/-! ## Putting something in a place -/

theorem get?_put_nil (d : Disk) (node : Node) (place : Route) :
    (d.put [] node).get? place = d.get? place := by
  by_cases root : place = []
  · simp [get?, root]
  · rw [get?, if_neg root, get?, if_neg root, put, find?_putPlace, if_neg (Ne.symm root)]

/-- Whether a place may be given a file or a directory: it holds one of the same kind, or else nothing, and
then it is in a directory. -/
def Takes (d : Disk) (place : Route) (node : Node) : Prop :=
  (∀ target, node ≠ .link target) ∧ above ∉ place ∧
    match d.get? place with
    | some old => old.SameKind node
    | none => d.HoldsDirectory place.dropLast

theorem Takes.kept {d : Disk} {place : Route} {node : Node} (takes : d.Takes place node) {other : Route}
    {held : Node} (found : d.get? other = some held) :
    ∃ held', (d.put place node).get? other = some held' ∧ held.SameKind held' := by
  by_cases root : place = []
  · rw [root, get?_put_nil]
    exact ⟨held, found, .refl held⟩
  · rw [get?_put d root]
    by_cases same : place = other
    · obtain ⟨-, -, kind⟩ := takes
      rw [same, found] at kind
      exact ⟨node, if_pos same, kind⟩
    · exact ⟨held, by rw [if_neg same, found], .refl held⟩

theorem Takes.holdsDirectory {d : Disk} {place : Route} {node : Node} (takes : d.Takes place node)
    {other : Route} (holds : d.HoldsDirectory other) : (d.put place node).HoldsDirectory other := by
  obtain ⟨mode, held⟩ := holds
  obtain ⟨held', found, kind⟩ := takes.kept held
  obtain ⟨mode', rfl⟩ := kind.of_directory
  exact ⟨mode', found⟩

theorem Takes.wellFormed {d : Disk} {place : Route} {node : Node} (takes : d.Takes place node)
    (wellFormed : d.WellFormed) : (d.put place node).WellFormed := by
  by_cases root : place = []
  · subst root
    constructor
    · intro other held
      rw [get?_put_nil] at held
      exact takes.holdsDirectory (wellFormed.parents other held)
    · intro other held
      rw [get?_put_nil] at held
      exact wellFormed.names other held
  · constructor
    · intro other held
      rw [get?_put d root] at held
      by_cases same : place = other
      · obtain ⟨-, -, kind⟩ := id takes
        split at kind
        · rename_i old found
          exact takes.holdsDirectory (same ▸ wellFormed.parents place (by simp [found]))
        · exact takes.holdsDirectory (same ▸ kind)
      · rw [if_neg same] at held
        exact takes.holdsDirectory (wellFormed.parents other held)
    · intro other held
      rw [get?_put d root] at held
      by_cases same : place = other
      · exact same ▸ takes.2.1
      · rw [if_neg same] at held
        exact wellFormed.names other held

/-- Where a path leads, something may be put that is of the kind of what is there. -/
theorem WellFormed.takes {d : Disk} (wellFormed : d.WellFormed) {path : List Char}
    (start : d.HoldsDirectory (startOf d.here path)) {spot : Spot} (located : d.locate true path = .ok spot)
    {node : Node} (plain : ∀ target, node ≠ .link target) (kind : ∀ old, spot.node = some old → old.SameKind node) :
    d.Takes spot.route node := by
  obtain ⟨held, named, parent, -⟩ := (walks_of_locate located).spot_eq start wellFormed
  refine ⟨plain, named, ?_⟩
  rw [held]
  cases found : spot.node with
  | some old => exact kind old found
  | none =>
      obtain ⟨place, name, same, holds⟩ := parent found
      simpa only [same, List.dropLast_concat] using holds

/-! ## Growth -/

/-- A disk has grown below a place. -/
structure Grown (base : Route) (before after : Disk) : Prop where
  /-- It is still well-formed. -/
  wellFormed : after.WellFormed
  /-- The current directory is the same. -/
  here : after.here = before.here
  /-- What was there is there and of the same kind. -/
  kept : ∀ place node, before.get? place = some node →
    ∃ node', after.get? place = some node' ∧ node.SameKind node'
  /-- There are no new links. -/
  links : ∀ place target, after.get? place = some (.link target) → before.get? place = some (.link target)
  /-- Nothing has changed elsewhere. -/
  outside : ∀ place, ¬base <+: place → after.get? place = before.get? place

theorem WellFormed.grown {d : Disk} (wellFormed : d.WellFormed) (base : Route) : Grown base d d where
  wellFormed
  here := rfl
  kept _ node held := ⟨node, held, .refl node⟩
  links _ _ linked := linked
  outside _ _ := rfl

namespace Grown

variable {base : Route} {before after : Disk}

theorem put (grown : Grown base before after) {place : Route} {node : Node} (inside : base <+: place)
    (takes : after.Takes place node) : Grown base before (after.put place node) where
  wellFormed := takes.wellFormed grown.wellFormed
  here := grown.here
  kept other held found := by
    obtain ⟨held', found', kind⟩ := grown.kept other held found
    obtain ⟨held'', found'', kind'⟩ := takes.kept found'
    exact ⟨held'', found'', kind.trans kind'⟩
  links other target linked := by
    by_cases root : place = []
    · rw [root, get?_put_nil] at linked
      exact grown.links other target linked
    · rw [get?_put after root] at linked
      split at linked
      · exact absurd (Option.some.inj linked) (takes.1 target)
      · exact grown.links other target linked
  outside other away := by
    by_cases root : place = []
    · rw [root, get?_put_nil]
      exact grown.outside other away
    · have different : place ≠ other := fun same => away (same ▸ inside)
      rw [get?_put after root, if_neg different]
      exact grown.outside other away

theorem trans {later : Disk} (grown : Grown base before after) (grownOn : Grown base after later) :
    Grown base before later where
  wellFormed := grownOn.wellFormed
  here := grownOn.here.trans grown.here
  kept place node held := by
    obtain ⟨node', held', kind⟩ := grown.kept place node held
    obtain ⟨node'', held'', kind'⟩ := grownOn.kept place node' held'
    exact ⟨node'', held'', kind.trans kind'⟩
  links place target linked := grown.links place target (grownOn.links place target linked)
  outside place away := (grownOn.outside place away).trans (grown.outside place away)

theorem linkAt (grown : Grown base before after) : after.linkAt = before.linkAt := by
  funext place
  cases linked : after.linkAt place with
  | some target =>
      have held := grown.links place target (get?_of_linkAt linked)
      rw [Disk.linkAt, held]
  | none =>
      cases linked' : before.linkAt place with
      | none => rfl
      | some target =>
          obtain ⟨held, found, kind⟩ := grown.kept place _ (get?_of_linkAt linked')
          obtain rfl := kind.of_link
          simp [Disk.linkAt, found] at linked

theorem holdsDirectory (grown : Grown base before after) {place : Route}
    (holds : before.HoldsDirectory place) : after.HoldsDirectory place := by
  obtain ⟨mode, held⟩ := holds
  obtain ⟨held', found, kind⟩ := grown.kept place _ held
  obtain ⟨mode', rfl⟩ := kind.of_directory
  exact ⟨mode', found⟩

/-- A path starts in a directory that is still there. -/
theorem holdsDirectory_startOf (grown : Grown base before after) {path : List Char}
    (start : before.HoldsDirectory (startOf before.here path)) :
    after.HoldsDirectory (startOf after.here path) := by
  rw [grown.here]
  exact grown.holdsDirectory start

/-- Paths resolve to the same places. -/
theorem resolve (grown : Grown base before after) (path : List Char) :
    after.resolve path = before.resolve path :=
  resolve_congr grown.linkAt grown.here path

/-- A walk that found something finds something of the same kind at the same spot. -/
theorem walks (grown : Grown base before after) {followLast : Bool} {links : Nat} {here : Route}
    {names : List Segment} {spot : Spot} (walks : Walks before followLast links here names spot)
    {node : Node}
    (something : spot.node = some node) :
    ∃ node', Walks after followLast links here names ⟨spot.route, some node'⟩ ∧ node.SameKind node' := by
  induction walks with
  | @arrived _ here =>
      obtain ⟨node', found, kind⟩ := grown.kept here node something
      exact ⟨node', found ▸ .arrived, kind⟩
  | up inside _ induction =>
      obtain ⟨node', behind, kind⟩ := induction something
      exact ⟨node', .up (grown.holdsDirectory inside) behind, kind⟩
  | missing => cases something
  | stay inside named short linked stays =>
      cases something
      obtain ⟨node', found, kind⟩ := grown.kept _ _ linked
      obtain rfl := kind.of_link
      exact ⟨_, .stay (grown.holdsDirectory inside) named short found stays, rfl⟩
  | follow inside named short linked follows _ induction =>
      obtain ⟨node', behind, kind⟩ := induction something
      obtain ⟨held, found, kindLink⟩ := grown.kept _ _ linked
      obtain rfl := kindLink.of_link
      exact ⟨node', .follow (grown.holdsDirectory inside) named short found follows behind, kind⟩
  | @down _ _ _ _ held _ inside named short found plain _ induction =>
      obtain ⟨node', behind, kind⟩ := induction something
      obtain ⟨held', found', kindHeld⟩ := grown.kept _ _ found
      refine ⟨node', .down (grown.holdsDirectory inside) named short found' ?_ behind, kind⟩
      rintro target rfl
      cases held with
      | file content mode => cases kindHeld
      | directory mode => cases kindHeld
      | link target' => exact plain target' rfl

/-- A path that led to something leads to something of the same kind. -/
theorem locate (grown : Grown base before after) {followLast : Bool} {path : List Char} {route : Route}
    {node : Node} (located : before.locate followLast path = .ok ⟨route, some node⟩) :
    ∃ node', after.locate followLast path = .ok ⟨route, some node'⟩ ∧ node.SameKind node' := by
  obtain ⟨node', behind, kind⟩ := grown.walks (walks_of_locate located) rfl
  refine ⟨node', ?_, kind⟩
  rw [Disk.locate] at located ⊢
  split at located
  · cases located
  · split at located
    · cases located
    · rw [if_neg ‹_›, if_neg ‹_›, grown.here]
      exact behind.walk

end Grown

/-! ## Spots -/

theorem ensures_spot {d : Disk} {followLast : Bool} {path : List Char} {returns : Spot → Disk → Prop}
    {fails : Fault → Disk → Prop}
    (found : ∀ spot, d.locate followLast path = .ok spot → returns spot d)
    (stopped : ∀ cause, d.locate followLast path = .error cause → fails ⟨cause, path⟩ d) :
    Ensures (Disk.spot followLast path) d returns fails := by
  refine .bind (.get ?_)
  split
  · rename_i located
    exact .pure (found _ located)
  · rename_i missed
    exact .throw (stopped _ missed)

end Stencil.Disk
