import Mathlib
import Stencil.Proofs.Disk.Laying

/-!
# Adding to files

Bytes that are added to the file of a path stand at its end, and whatever led to a file before still leads there.
A path that is written in its shortest way and never leads up means the same from the root as it does from the
current directory; with links on the way, a path that leads up may not.
-/

namespace Stencil.Disk

/-! ## Disks to work on -/

/-- Whether one can work on a disk: it is well-formed, and the current directory is there. -/
structure IsUsable (d : Disk) : Prop where
  /-- What is on the disk stands in directories. -/
  wellFormed : d.WellFormed
  /-- The current directory is there. -/
  opens : d.HoldsDirectory d.here
  /-- It is called by names. -/
  areNames : ∀ name ∈ d.here, IsName name

variable {d t : Disk} {path other : List Char}

theorem IsUsable.grown {base : Route} (usable : d.IsUsable) (grown : Grown base d t) : t.IsUsable where
  wellFormed := grown.wellFormed
  opens := grown.here ▸ grown.holdsDirectory usable.opens
  areNames := grown.here ▸ usable.areNames

theorem keeps_ensureDirectories_usable (path : List Char) : Keeps (ensureDirectories path) IsUsable := by
  intro d usable
  have start : d.HoldsDirectory (startOf d.here path) := usable.opens.startOf path
  have widened := keeps_ensureDirectories_widened start d (usable.wellFormed.widened path)
  exact widened.mono (fun _ t made => usable.grown made.grown) fun _ t stopped => usable.grown stopped.grown

/-! ## Paths of one file -/

/-- Whether two paths lead to one file. -/
def SameFile (d : Disk) (path other : List Char) : Prop :=
  ∃ route content mode, d.locate true path = .ok ⟨route, some (.file content mode)⟩ ∧
    d.locate true other = .ok ⟨route, some (.file content mode)⟩

theorem SameFile.grown {base : Route} (same : SameFile d path other) (grown : Grown base d t) :
    SameFile t path other := by
  obtain ⟨route, content, mode, located, located'⟩ := same
  have again := grown.locate_again located
  have again' := grown.locate_again located'
  obtain ⟨node, held, kind⟩ := grown.kept route _ (get?_of_locate located)
  rw [held] at again again'
  cases node with
  | file content' mode' => exact ⟨route, content', mode', again, again'⟩
  | directory mode' => cases kind
  | link target => cases kind

theorem SameFile.read_eq (same : SameFile d path other) : d.read path = d.read other := by
  obtain ⟨route, content, mode, located, located'⟩ := same
  rw [read, located, read, located']

/-! ## Adding bytes -/

/-- The bytes of the file of a path, or none. -/
def contentAt (d : Disk) (path : List Char) : Bytes :=
  (d.read path).toOption.getD []

/-- A file that is put where a path leads is found there. -/
theorem IsUsable.locate_put (usable : d.IsUsable) {spot : Spot} (located : d.locate true path = .ok spot)
    (content : Bytes) (mode : Nat) (kind : ∀ old, spot.node = some old → old.SameKind (.file content mode)) :
    Grown [] d (d.put spot.route (.file content mode)) ∧
      (d.put spot.route (.file content mode)).locate true path = .ok ⟨spot.route, some (.file content mode)⟩ := by
  have takes := usable.wellFormed.takes (usable.opens.startOf path) located (by rintro target ⟨⟩) kind
  have grown := (usable.wellFormed.grown []).put List.nil_prefix takes
  have below : spot.route ≠ [] := by
    intro root
    have held := get?_of_locate located
    rw [root, get?, if_pos rfl] at held
    cases kind _ held.symm
  refine ⟨grown, ?_⟩
  rw [grown.locate_again located, get?_put d below, if_pos rfl]

/-- The bytes are added to the file of the path, which is made if it is not there; or nothing is done. -/
theorem ensures_appendFile (usable : d.IsUsable) (path : List Char) (content : Bytes) :
    Ensures (appendFile path content) d
      (fun _ t => Grown [] d t ∧
        ∃ route mode, t.locate true path = .ok ⟨route, some (.file (d.contentAt path ++ content) mode)⟩)
      fun _ t => t = d := by
  refine .bind (ensures_spot (fun spot located => ?_) fun _ _ => rfl)
  obtain ⟨route, node⟩ := spot
  cases node with
  | none =>
      have empty : d.contentAt path = [] := by rw [contentAt, read, located]; rfl
      obtain ⟨grown, found⟩ := usable.locate_put located content fileMode fun _ same => by cases same
      exact .modify ⟨grown, route, fileMode, by rw [empty]; exact found⟩
  | some node =>
      cases node with
      | directory mode => exact .throw rfl
      | link target =>
          obtain ⟨held, -, -, unlinked⟩ :=
            (walks_of_locate located).spot_eq (usable.opens.startOf path) usable.wellFormed
          simp [linkAt, held] at unlinked
      | file before mode =>
          have held : d.contentAt path = before := by rw [contentAt, read, located]; rfl
          obtain ⟨grown, found⟩ := usable.locate_put located (before ++ content) mode
            (by rintro _ ⟨⟩; trivial)
          exact .modify ⟨grown, route, mode, by rw [held]; exact found⟩

/-- Where a path leads to a file, adding bytes is never stopped. -/
theorem ensures_appendFile_found (usable : d.IsUsable) {route : Route} {before : Bytes} {mode : Nat}
    (located : d.locate true path = .ok ⟨route, some (.file before mode)⟩) (content : Bytes) :
    Ensures (appendFile path content) d
      (fun _ t => Grown [] d t ∧ t.locate true path = .ok ⟨route, some (.file (before ++ content) mode)⟩)
      fun _ _ => False := by
  refine .bind (ensures_spot (fun spot found => ?_) fun cause missed => ?_)
  · obtain rfl : _ = spot := Except.ok.inj (located.symm.trans found)
    exact .modify (usable.locate_put located (before ++ content) mode (by rintro _ ⟨⟩; trivial))
  · cases located.symm.trans missed

/-! ## Paths that never lead up -/

/-- The way to a directory that is there may be walked first. -/
theorem walk_behind (wellFormed : d.WellFormed) {followLast : Bool} {links : Nat} (place : Route) {before : Route}
    {rest : List Segment} {spot : Spot} (holds : d.HoldsDirectory (place ++ before))
    (walked : d.walk followLast links place (before ++ rest) = .ok spot) :
    d.walk followLast links (place ++ before) rest = .ok spot := by
  induction before generalizing place with
  | nil => simpa using walked
  | cons name before induction =>
      obtain ⟨mode, held⟩ : d.HoldsDirectory (place ++ [name]) := by
        cases before with
        | nil => exact holds
        | cons next before =>
            refine wellFormed.holdsDirectory_of_prefix ⟨next :: before, ?_⟩ ?_ holds.ne_none
            · simp
            · simp
      have named : name ≠ above := by
        rintro rfl
        exact wellFormed.names _ holds.ne_none (by simp)
      have whole : place ++ name :: before = place ++ [name] ++ before := by simp
      rw [whole] at holds ⊢
      have walks := walks_of_walk walked
      rw [List.cons_append] at walks
      generalize names : before ++ rest = behind at walks
      cases walks with
      | up => exact absurd rfl named
      | missing _ _ _ absent => cases held.symm.trans absent
      | stay _ _ _ linked => cases held.symm.trans linked
      | follow _ _ _ linked => cases held.symm.trans linked
      | down _ _ _ _ _ walks => exact induction _ holds (names ▸ walks.walk)

/-- Whether a path is written in its shortest way and never leads up. -/
structure IsLevel (path : List Char) : Prop where
  /-- It is written in its shortest way. -/
  tidy : tidy path = path
  /-- None of its segments leads up. -/
  stays : above ∉ segments path

theorem rootOf_eq_nil (relative : ¬isAbsolute path = true) : rootOf path = [] := by
  refine (rootOf_cases path).resolve_right ?_
  rintro (root | root)
  · exact relative (by rw [← isAbsolute_rootOf, root]; rfl)
  · exact relative (by rw [← isAbsolute_rootOf, root]; rfl)

theorem joinWith_append_isSuffix (separator : Char) (before : List (List Char)) {names : List (List Char)}
    (some : names ≠ []) : joinWith separator names <:+ joinWith separator (before ++ names) := by
  induction before with
  | nil => exact List.suffix_rfl
  | cons piece before induction =>
      obtain ⟨next, rest, more⟩ := List.exists_cons_of_ne_nil (List.append_ne_nil_of_right_ne_nil before some)
      rw [List.cons_append, more, joinWith, ← more]
      · exact induction.trans ((List.suffix_cons _ _).trans (List.suffix_append _ _))
      · simp

theorem IsLevel.written (level : IsLevel path) (other : path ≠ ['.']) :
    rootOf path ++ joinWith '/' (segments path) = path := by
  have tidy := level.tidy
  rw [Disk.tidy] at tidy
  split at tidy
  · exact absurd tidy.symm other
  · exact tidy

/-- A path that never leads up and means a file from the root means the same file as it stands. -/
theorem IsUsable.sameFile_absolute (usable : d.IsUsable) (level : IsLevel path) {route : Route} {content : Bytes}
    {mode : Nat} (located : d.locate true (d.absolute path) = .ok ⟨route, some (.file content mode)⟩) :
    SameFile d (d.absolute path) path := by
  by_cases fromRoot : isAbsolute path = true
  · have same : d.absolute path = path := by
      rw [absolute, if_pos fromRoot, startOf, if_pos fromRoot, List.nil_append, cancelAbove_eq_self level.stays]
      exact level.written (by rintro rfl; cases fromRoot)
    exact ⟨route, content, mode, located, same ▸ located⟩
  · have names : above ∉ d.here ++ segments path := by
      rw [List.mem_append, not_or]
      exact ⟨usable.wellFormed.names _ usable.opens.ne_none, level.stays⟩
    have areNames : ∀ name ∈ d.here ++ segments path, IsName name := by
      intro name known
      rcases List.mem_append.mp known with before | behind
      · exact usable.areNames name before
      · exact isName_of_mem_segments behind
    have whole : d.absolute path = '/' :: joinWith '/' (d.here ++ segments path) := by
      rw [absolute, if_neg fromRoot, startOf, if_neg fromRoot, cancelAbove_eq_self names]
      rfl
    refine ⟨route, content, mode, located, ?_⟩
    rw [whole, locate] at located
    split at located
    · cases located
    split at located
    · cases located
    rename_i short
    have walked : d.walk true mostLinks d.here (segments path) = .ok ⟨route, some (.file content mode)⟩ := by
      rw [segments_slash, segments_joinWith areNames] at located
      exact walk_behind usable.wellFormed [] usable.opens located
    -- The current directory itself is no file, so the path has a name.
    have some : segments path ≠ [] := by
      intro none
      obtain ⟨mode', held⟩ := usable.opens
      rw [none, walk, held] at walked
      cases walked
    have shorter : path <:+ '/' :: joinWith '/' (d.here ++ segments path) := by
      have written := level.written (by rintro rfl; exact some rfl)
      rw [rootOf_eq_nil fromRoot, List.nil_append] at written
      have behind := joinWith_append_isSuffix '/' d.here some
      rw [written] at behind
      exact behind.trans (List.suffix_cons _ _)
    rw [locate, if_neg, if_neg, startOf, if_neg fromRoot]
    · exact walked
    · obtain ⟨before, same⟩ := shorter
      rw [← same, Text.Utf8.encode_append, List.length_append] at short
      omega
    · rw [List.isEmpty_iff]
      rintro rfl
      exact some rfl

end Stencil.Disk
