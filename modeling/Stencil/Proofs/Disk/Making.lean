import Mathlib
import Stencil.Proofs.Disk.Growth
import Stencil.Proofs.Disk.Path
import Stencil.Proofs.Disk.Trees
import Stencil.Proofs.Work

/-!
# What is made at the end of a path

To make the directory of a path, to write the file of a path or to change who may use what it leads to either
is stopped or changes the disk in one way, which the place that the path resolves to says.
-/

namespace Stencil.Disk

/-! ## Ways -/

theorem putPlace_putPlace (route : Route) (node node' : Node) (places : List (Route × Node)) :
    putPlace route node' (putPlace route node places) = putPlace route node' places := by
  induction places with
  | nil => simp [putPlace]
  | cons place rest induction =>
      by_cases same : place.1 = route
      · simp [putPlace, same]
      · simp [putPlace, same, induction]

@[simp]
theorem put_put (d : Disk) (route : Route) (node node' : Node) :
    (d.put route node).put route node' = d.put route node' := by
  simp only [put, putPlace_putPlace]

/-- A disk with a directory in a place if nothing was there. -/
def fillIn (d : Disk) (place : Route) : Disk :=
  match d.get? place with
  | none => d.put place (.directory directoryMode)
  | some _ => d

/-- A disk with directories wherever nothing was on the way to a place. -/
def pave (d : Disk) (place : Route) : Disk :=
  place.inits.foldl fillIn d

theorem pave_concat (d : Disk) (place : Route) (name : Segment) :
    d.pave (place ++ [name]) = (d.pave place).fillIn (place ++ [name]) := by
  simp [pave, List.inits_append]

theorem fillIn_of_ne_none {d : Disk} {place : Route} (held : d.get? place ≠ none) : d.fillIn place = d := by
  obtain ⟨node, found⟩ := Option.ne_none_iff_exists'.mp held
  rw [fillIn, found]

/-- The way to what is there needs no paving. -/
theorem pave_of_ne_none {d : Disk} (wellFormed : d.WellFormed) {place : Route} (held : d.get? place ≠ none) :
    d.pave place = d := by
  induction place using List.reverseRecOn with
  | nil => exact fillIn_of_ne_none held
  | append_singleton place name induction =>
      have parent : d.get? place ≠ none :=
        wellFormed.ne_none_of_prefix (List.prefix_append place [name]) held
      rw [pave_concat, induction parent, fillIn_of_ne_none held]

/-- What is put in a place takes the place of the directory that would have been made there. -/
theorem put_pave (d : Disk) (place : Route) (node : Node) :
    (d.pave place).put place node = (d.pave place.dropLast).put place node := by
  induction place using List.reverseRecOn with
  | nil => rfl
  | append_singleton place name _ =>
      rw [pave_concat, List.dropLast_concat, fillIn]
      split
      · rw [put_put]
      · rfl

/-! ## Resolved spots -/

/-- The names of a path lead to the place that it resolves to. -/
structure IsResolved (d : Disk) (path : List Char) : Prop where
  /-- No link leads back to itself. -/
  leads : ∃ count, Leads d.linkAt (startOf d.here path) (segments path) (d.resolve path) count
  /-- No name on the way to the place leads up. -/
  named : above ∉ d.resolve path

theorem IsResolved.of_leads {d : Disk} {path : List Char} {route : Route} {count : Nat}
    (leads : Leads d.linkAt (startOf d.here path) (segments path) route count) (named : above ∉ route) :
    d.IsResolved path ∧ d.resolve path = route := by
  have resolved := resolve_of_leads leads named
  exact ⟨⟨⟨count, resolved ▸ leads⟩, resolved ▸ named⟩, resolved⟩

section Spots

variable {d : Disk} {path : List Char} (wellFormed : d.WellFormed)
  (start : d.HoldsDirectory (startOf d.here path))

include wellFormed start in
/-- A spot that is found by following every link, or where nothing is, is the place that the path resolves to. -/
theorem resolve_of_locate {followLast : Bool} {spot : Spot} (located : d.locate followLast path = .ok spot)
    (settled : followLast = true ∨ spot.node = none) :
    d.IsResolved path ∧ d.resolve path = spot.route ∧ d.get? spot.route = spot.node ∧
      (spot.node = none → ∃ place name, spot.route = place ++ [name] ∧ d.HoldsDirectory place) ∧
      ∀ target, spot.node ≠ some (.link target) := by
  have walks := walks_of_locate located
  obtain ⟨count, leads⟩ := walks.leads settled
  obtain ⟨held, named, parent, unlinked⟩ := walks.spot_eq start wellFormed
  obtain ⟨isResolved, resolved⟩ := IsResolved.of_leads leads named
  refine ⟨isResolved, resolved, held, parent, fun target same => ?_⟩
  rcases settled with follows | nothing
  · have plain := unlinked follows
    rw [linkAt, held, same] at plain
    cases plain
  · cases nothing.symm.trans same

end Spots

/-! ## Directories -/

/-- The directory of a path has been made: its way is paved, and nothing else has changed. -/
structure Paved (d : Disk) (path : List Char) (t : Disk) : Prop where
  /-- The path led to a place. -/
  isResolved : d.IsResolved path
  /-- The way there is paved. -/
  paved : t = d.pave (d.resolve path)
  /-- There is a directory. -/
  holds : t.HoldsDirectory (d.resolve path)
  /-- No link has changed. -/
  grown : Grown [] d t

theorem Paved.of_holdsDirectory {d : Disk} {path : List Char} (wellFormed : d.WellFormed)
    (isResolved : d.IsResolved path) (holds : d.HoldsDirectory (d.resolve path)) : Paved d path d :=
  ⟨isResolved, (pave_of_ne_none wellFormed holds.ne_none).symm, holds, wellFormed.grown []⟩

section Longer

variable {d t : Disk} {path longer : List Char} {name : Segment}

/-- One name behind the path of a directory that has been made leads to the place of that name in it, unless
it is the name of a link; then nothing had to be made. -/
theorem Paved.next (made : Paved d path t) (wellFormed : d.WellFormed) (isResolved : t.IsResolved longer)
    (root : isAbsolute longer = isAbsolute path) (more : segments longer = segments path ++ [name])
    (named : name ≠ above) :
    d.IsResolved longer ∧ (d.resolve longer = d.resolve path ++ [name] ∨ t = d) := by
  have start : startOf d.here longer = startOf d.here path := startOf_congr _ root
  obtain ⟨count, leads⟩ := isResolved.leads
  rw [made.grown.linkAt, made.grown.here, made.grown.resolve] at leads
  refine ⟨⟨⟨count, leads⟩, made.grown.resolve longer ▸ isResolved.named⟩, ?_⟩
  rw [start, more] at leads
  obtain ⟨middle, before, after, toMiddle, last, -⟩ := leads.split
  obtain ⟨_, toPath⟩ := made.isResolved.leads
  obtain ⟨rfl, -⟩ := toPath.unique toMiddle
  generalize d.resolve longer = place at last
  cases last with
  | up => exact absurd rfl named
  | down _ _ behind =>
      cases behind
      exact .inl rfl
  | follow _ linked _ _ =>
      have held : d.get? (d.resolve path ++ [name]) ≠ none := by simp [get?_of_linkAt linked]
      have parent := wellFormed.ne_none_of_prefix (List.prefix_append _ [name]) held
      rw [made.paved, pave_of_ne_none wellFormed parent]
      exact .inr rfl

/-- The directory of a path is made once the one before its last name has been made. -/
theorem Paved.behind {u : Disk} (second : Paved t longer u) (first : Paved d path t) (wellFormed : d.WellFormed)
    (root : isAbsolute longer = isAbsolute path) (more : segments longer = segments path ++ [name])
    (named : name ≠ above) : Paved d longer u := by
  obtain ⟨isResolved, place⟩ := first.next wellFormed second.isResolved root more named
  have resolved := first.grown.resolve longer
  refine ⟨isResolved, ?_, resolved ▸ second.holds, first.grown.trans second.grown⟩
  rw [second.paved, resolved]
  rcases place with place | same
  · have there : t.pave (d.resolve path) = d.pave (d.resolve path) := by
      rw [pave_of_ne_none first.grown.wellFormed first.holds.ne_none, ← first.paved]
    rw [place, pave_concat, there, ← pave_concat]
  · rw [same]

/-- The way to a place in a directory that has been made is paved as far as the directory around the place. -/
theorem Paved.around (made : Paved d path t) (wellFormed : d.WellFormed) (isResolved : t.IsResolved longer)
    (parent : t.HoldsDirectory (t.resolve longer).dropLast) (root : isAbsolute longer = isAbsolute path)
    (more : segments longer = segments path ++ [name]) (named : name ≠ above) :
    t = d.pave (d.resolve longer).dropLast := by
  obtain ⟨-, place⟩ := made.next wellFormed isResolved root more named
  rcases place with place | rfl
  · rw [place, List.dropLast_concat]
    exact made.paved
  · exact (pave_of_ne_none wellFormed parent.ne_none).symm

end Longer

section Directories

variable {d : Disk} {path : List Char} (wellFormed : d.WellFormed)
  (start : d.HoldsDirectory (startOf d.here path))

include wellFormed start in
theorem ensures_makeDirectory : Ensures (makeDirectory path) d (fun _ t => Paved d path t)
    fun fault t => t = d ∧ (fault.cause = .notFound → d.locate false path = .error .notFound) := by
  refine .bind (ensures_spot (fun spot located => ?_) fun cause missed => ?_)
  · obtain ⟨route, node⟩ := spot
    cases node with
    | some node => exact .throw ⟨rfl, nofun⟩
    | none =>
        obtain ⟨isResolved, resolved, absent, parent, -⟩ :=
          resolve_of_locate wellFormed start located (.inr rfl)
        obtain ⟨place, name, rfl, holds⟩ := parent rfl
        simp only at resolved absent
        have takes : d.Takes (place ++ [name]) (.directory directoryMode) := by
          refine ⟨nofun, resolved ▸ isResolved.named, ?_⟩
          simpa only [absent, List.dropLast_concat] using holds
        have made : d.put (place ++ [name]) (.directory directoryMode) = d.pave (place ++ [name]) := by
          rw [pave_concat, pave_of_ne_none wellFormed holds.ne_none, fillIn, absent]
        refine .modify ⟨isResolved, resolved ▸ made, ?_, (wellFormed.grown []).put List.nil_prefix takes⟩
        refine ⟨directoryMode, ?_⟩
        rw [resolved, get?_put d (by simp), if_pos rfl]
  · exact ⟨rfl, fun same => missed.trans (congrArg Except.error same)⟩

include wellFormed start in
theorem ensures_acceptDirectory_paved (fault : Fault) :
    Ensures (acceptDirectory path fault) d (fun _ t => Paved d path t) fun _ _ => True := by
  refine .bind (.get ?_)
  split
  · rename_i found
    rw [isDirectoryAt] at found
    split at found
    · rename_i route node located
      obtain ⟨isResolved, resolved, held, -⟩ := resolve_of_locate wellFormed start located (.inl rfl)
      have isDirectory := Except.ok.inj found
      refine .pure (.of_holdsDirectory wellFormed isResolved ?_)
      rw [resolved]
      cases node with
      | directory mode => exact ⟨mode, held⟩
      | file content mode => cases isDirectory
      | link target => cases isDirectory
    · cases found
    · cases found
  · exact .throw trivial
  · exact .throw trivial

include wellFormed start in
theorem ensures_ensureDirectory :
    Ensures (ensureDirectory path) d (fun _ t => Paved d path t) fun _ _ => True := by
  refine .tryCatch ((ensures_makeDirectory wellFormed start).mono (fun _ _ paved => paved) ?_)
  rintro fault t ⟨rfl, -⟩
  split
  · exact .throw trivial
  · exact ensures_acceptDirectory_paved wellFormed start fault

end Directories

/-! ## Directories below a directory -/

theorem below_concat (directory : List Char) {names : List Segment} {name : Segment}
    (areNames : ∀ other ∈ names ++ [name], IsName other) :
    isAbsolute (below directory (names ++ [name])) = isAbsolute (below directory names) ∧
      segments (below directory (names ++ [name])) = segments (below directory names) ++ [name] := by
  have areNamesUp : ∀ other ∈ names, IsName other := fun other known => areNames other (List.mem_append_left _ known)
  constructor
  · rw [isAbsolute_below directory areNames, isAbsolute_below directory areNamesUp]
  · rw [segments_below directory areNames, segments_below directory areNamesUp, List.append_assoc]

section Below

variable {d : Disk} {destination : List Char} {base : Route} {mode : Nat}
  (wellFormed : d.WellFormed)
  (opened : Walks d true mostLinks (startOf d.here destination) (segments destination)
    ⟨base, some (.directory mode)⟩)

include opened in
theorem holdsDirectory_startOf_below {names : List Segment} (areNames : ∀ name ∈ names, IsName name) :
    d.HoldsDirectory (startOf d.here (below destination names)) := by
  rw [startOf_congr _ (isAbsolute_below destination areNames)]
  exact holdsDirectory_start opened

include opened in
/-- Nothing is missing on the way to a directory that is there. -/
theorem locate_below_nil_ne_notFound : d.locate false (below destination []) ≠ .error .notFound := by
  obtain ⟨route, node, stands⟩ := opened.standing
  have nonempty : (below destination []).isEmpty = false := by
    rw [List.isEmpty_eq_false_iff]
    exact pathUp_ne_nil _ _
  rw [locate, nonempty, if_neg Bool.false_ne_true, segments_below destination (List.forall_mem_nil _), List.append_nil,
    startOf_congr d.here (isAbsolute_below destination (List.forall_mem_nil _)), stands.walk]
  split
  · simp
  · simp

include wellFormed opened in
/-- The directory of names below a directory is made, if nothing stops this. -/
theorem ensures_ensureUp_below {names : List Segment} (areNames : ∀ name ∈ names, IsName name)
    (down : above ∉ names) :
    Ensures (ensureUp (rootOf destination) (segments destination ++ names).reverse) d
      (fun _ t => Paved d (below destination names) t) fun _ _ => True := by
  induction names using List.reverseRecOn with
  | nil =>
      have start := holdsDirectory_startOf_below opened areNames
      have found := locate_below_nil_ne_notFound opened
      rw [below] at start found ⊢
      rw [List.append_nil] at start found ⊢
      cases up : (segments destination).reverse with
      | nil =>
          rw [up] at start found
          exact ensures_ensureDirectory wellFormed start
      | cons name up' =>
          rw [up] at start found
          refine .tryCatch ((ensures_makeDirectory wellFormed start).mono (fun _ _ paved => paved) ?_)
          rintro fault t ⟨rfl, missing⟩
          split
          · rename_i same
            exact absurd (missing same) found
          · exact ensures_acceptDirectory_paved wellFormed start fault
  | append_singleton names name induction =>
      have areNamesUp : ∀ name ∈ names, IsName name := fun other known => areNames other (List.mem_append_left _ known)
      have start := holdsDirectory_startOf_below opened areNames
      have startUp := holdsDirectory_startOf_below opened areNamesUp
      obtain ⟨root, more⟩ := below_concat destination areNames
      have named : name ≠ above := fun same => down (by simp [same])
      have last : (segments destination ++ (names ++ [name])).reverse =
          name :: (segments destination ++ names).reverse := by
        rw [← List.append_assoc, List.reverse_concat]
      have path : pathUp (rootOf destination) (name :: (segments destination ++ names).reverse) =
          below destination (names ++ [name]) := by rw [below, last]
      rw [last, ensureUp, path]
      refine .tryCatch ((ensures_makeDirectory wellFormed start).mono (fun _ _ paved => paved) ?_)
      rintro fault t ⟨rfl, -⟩
      split
      · refine .bind ((induction areNamesUp fun member => down (List.mem_append_left _ member)).mono
          (fun _ t paved => ?_) fun _ _ failed => failed)
        refine (ensures_ensureDirectory paved.grown.wellFormed (paved.grown.holdsDirectory_startOf start)).mono
          (fun _ u made => ?_) fun _ _ failed => failed
        exact made.behind paved wellFormed root more named
      · exact ensures_acceptDirectory_paved wellFormed start fault

end Below

/-! ## Files -/

theorem Takes.parent {d : Disk} {place : Route} {node : Node} (takes : d.Takes place node)
    (wellFormed : d.WellFormed) : d.HoldsDirectory place.dropLast := by
  obtain ⟨-, -, held⟩ := takes
  split at held
  · rename_i found
    exact wellFormed.parents place (by simp [found])
  · exact held

theorem ne_nil_of_get?_eq_file {d : Disk} {place : Route} {content : Bytes} {mode : Nat}
    (held : d.get? place = some (.file content mode)) : place ≠ [] := by
  rintro rfl
  cases held

/-- The file of a path has been put into the place that the path resolves to, and nothing else has changed. -/
structure Placed (d : Disk) (path : List Char) (content : Bytes) (mode : Nat) (t : Disk) : Prop where
  /-- The path led to a place. -/
  isResolved : d.IsResolved path
  /-- The directory around the place was there. -/
  parent : d.HoldsDirectory (d.resolve path).dropLast
  /-- The file has been put there. -/
  placed : t = d.put (d.resolve path) (.file content mode)
  /-- It is there. -/
  held : t.get? (d.resolve path) = some (.file content mode)
  /-- No link has changed. -/
  grown : Grown [] d t

section Files

variable {d t : Disk} {path : List Char} {content : Bytes} {mode : Nat}

theorem Placed.of_takes (wellFormed : d.WellFormed) (isResolved : d.IsResolved path)
    (below : d.resolve path ≠ []) (takes : d.Takes (d.resolve path) (.file content mode)) :
    Placed d path content mode (d.put (d.resolve path) (.file content mode)) where
  isResolved := isResolved
  parent := takes.parent wellFormed
  placed := rfl
  held := by rw [get?_put d below, if_pos rfl]
  grown := (wellFormed.grown []).put List.nil_prefix takes

/-- A file that has been put into its place may be replaced there. -/
theorem Placed.put (placed : Placed d path content mode t) (content' : Bytes) (mode' : Nat) :
    Placed d path content' mode' (t.put (d.resolve path) (.file content' mode')) where
  isResolved := placed.isResolved
  parent := placed.parent
  placed := by rw [placed.placed, put_put]
  held := by rw [get?_put t (ne_nil_of_get?_eq_file placed.held), if_pos rfl]
  grown := by
    refine placed.grown.put List.nil_prefix ⟨nofun, placed.isResolved.named, ?_⟩
    rw [placed.held]
    trivial

theorem ensures_openFile_placed (wellFormed : d.WellFormed) (start : d.HoldsDirectory (startOf d.here path)) :
    Ensures (openFile path) d (fun route t => route = d.resolve path ∧ ∃ mode, Placed d path [] mode t)
      fun _ _ => True := by
  refine .bind (ensures_spot (fun spot located => ?_) fun _ _ => trivial)
  obtain ⟨route, node⟩ := spot
  obtain ⟨isResolved, rfl, held, parent, unlinked⟩ := resolve_of_locate wellFormed start located (.inl rfl)
  match node with
  | some (.directory _) => exact .throw trivial
  | some (.link target) => exact absurd rfl (unlinked target)
  | some (.file content mode) =>
      refine .bind (.modify (.pure ⟨rfl, mode, .of_takes wellFormed isResolved (ne_nil_of_get?_eq_file held) ?_⟩))
      refine ⟨nofun, isResolved.named, ?_⟩
      rw [held]
      trivial
  | none =>
      obtain ⟨place, name, whole, holds⟩ := parent rfl
      simp only at whole held
      have below : d.resolve path ≠ [] := by simp [whole]
      refine .bind (.modify (.pure ⟨rfl, fileMode, .of_takes wellFormed isResolved below ?_⟩))
      refine ⟨nofun, isResolved.named, ?_⟩
      rw [held, whole, List.dropLast_concat]
      exact holds

/-- Bytes are written into the place that a path resolves to, if nothing stops this. -/
theorem ensures_writeFile (wellFormed : d.WellFormed) (start : d.HoldsDirectory (startOf d.here path))
    (content : Bytes) :
    Ensures (writeFile path content) d (fun _ t => ∃ mode, Placed d path content mode t) fun _ _ => True := by
  refine .bind ((ensures_openFile_placed wellFormed start).mono (fun route t opened => ?_) fun _ _ failed => failed)
  obtain ⟨rfl, mode, placed⟩ := opened
  refine .bind (.get ?_)
  rw [placed.held]
  exact .modify ⟨mode, placed.put content mode⟩

/-- No bytes are written into a directory. -/
theorem ensures_writeFile_directory {route : Route} (opened : Walks d true mostLinks (startOf d.here path)
    (segments path) ⟨route, some (.directory mode)⟩) (content : Bytes) :
    Ensures (writeFile path content) d (fun _ _ => False) fun _ _ => True := by
  refine .bind (.bind (ensures_spot (fun spot located => ?_) fun _ _ => trivial))
  have walked := (walks_of_locate located).walk
  cases walked.symm.trans opened.walk
  exact .throw trivial

/-- What a path leads to gets another mode, if nothing stops this. -/
theorem ensures_changeMode (wellFormed : d.WellFormed) (start : d.HoldsDirectory (startOf d.here path))
    (mode : Nat) :
    Ensures (changeMode path mode) d
      (fun _ t => (∃ content old, d.get? (d.resolve path) = some (.file content old) ∧
          t = d.put (d.resolve path) (.file content mode)) ∨
        ∃ old, d.get? (d.resolve path) = some (.directory old) ∧ t = d.put (d.resolve path) (.directory mode))
      fun _ _ => True := by
  refine .bind (ensures_spot (fun spot located => ?_) fun _ _ => trivial)
  obtain ⟨route, node⟩ := spot
  obtain ⟨-, rfl, held, -, unlinked⟩ := resolve_of_locate wellFormed start located (.inl rfl)
  match node with
  | none => exact .throw trivial
  | some (.file content old) => exact .modify (.inl ⟨content, old, held, rfl⟩)
  | some (.directory old) => exact .modify (.inr ⟨old, held, rfl⟩)
  | some (.link target) => exact absurd rfl (unlinked target)

theorem Placed.changeMode (placed : Placed d path content mode t)
    (start : d.HoldsDirectory (startOf d.here path)) (mode' : Nat) :
    Ensures (changeMode path mode') t (fun _ u => Placed d path content mode' u) fun _ _ => True := by
  refine (ensures_changeMode placed.grown.wellFormed (placed.grown.holdsDirectory_startOf start) mode').mono
    (fun _ u changed => ?_) fun _ _ failed => failed
  rw [placed.grown.resolve, placed.held] at changed
  rcases changed with ⟨content', old, same, rfl⟩ | ⟨old, same, -⟩
  · cases same
    exact placed.put content mode'
  · cases same

/-- A directory that has been made gets a mode of its own. -/
theorem Paved.changeMode (made : Paved d path t) (start : d.HoldsDirectory (startOf d.here path)) (mode : Nat) :
    Ensures (changeMode path mode) t
      (fun _ u => u = (d.pave (d.resolve path).dropLast).put (d.resolve path) (.directory mode) ∧ Grown [] d u)
      fun _ _ => True := by
  obtain ⟨old, held⟩ := made.holds
  refine (ensures_changeMode made.grown.wellFormed (made.grown.holdsDirectory_startOf start) mode).mono
    (fun _ u changed => ?_) fun _ _ failed => failed
  rw [made.grown.resolve, held] at changed
  rcases changed with ⟨_, _, same, -⟩ | ⟨_, -, rfl⟩
  · cases same
  · refine ⟨by rw [made.paved, put_pave], made.grown.put List.nil_prefix ⟨nofun, made.isResolved.named, ?_⟩⟩
    rw [held]
    trivial

end Files

end Stencil.Disk
