import Stencil.Disk.Walk

/-!
# Walks and resolved routes

A walk that succeeds follows the names of its path through the links of the disk.  Where names lead in this
sense depends on the links alone, and the resolved route of a path is where its names lead.
-/

namespace Stencil.Disk

/-! ## Well-formed disks -/

/-- Whether a place holds a directory. -/
def HoldsDirectory (d : Disk) (place : Route) : Prop :=
  ∃ mode, d.get? place = some (.directory mode)

instance (d : Disk) (place : Route) : Decidable (d.HoldsDirectory place) :=
  match held : d.get? place with
  | some (.directory mode) => isTrue ⟨mode, held⟩
  | some (.file _ _) => isFalse (by simp [HoldsDirectory, held])
  | some (.link _) => isFalse (by simp [HoldsDirectory, held])
  | none => isFalse (by simp [HoldsDirectory, held])

/-- What is on a disk stands in directories, and nothing is named like the directory above. -/
structure WellFormed (d : Disk) : Prop where
  /-- The place before one that holds something holds a directory. -/
  parents : ∀ place, d.get? place ≠ none → d.HoldsDirectory place.dropLast
  /-- No name on the way to a place leads up. -/
  names : ∀ place, d.get? place ≠ none → above ∉ place

theorem holdsDirectory_nil (d : Disk) : d.HoldsDirectory [] :=
  ⟨directoryMode, by rw [get?, if_pos rfl]⟩

theorem HoldsDirectory.ne_none {d : Disk} {place : Route} (holds : d.HoldsDirectory place) :
    d.get? place ≠ none := by
  obtain ⟨mode, held⟩ := holds
  simp [held]

theorem HoldsDirectory.startOf {d : Disk} {here : Route} (holds : d.HoldsDirectory here)
    (target : List Char) : d.HoldsDirectory (startOf here target) := by
  rw [Disk.startOf]
  split
  · exact d.holdsDirectory_nil
  · exact holds

theorem get?_ne_none_iff {d : Disk} {route : Route} (below : route ≠ []) :
    d.get? route ≠ none ↔ ∃ entry ∈ d.places, entry.1 = route := by
  rw [get?, if_neg below]
  cases found : d.places.find? (·.1 = route) with
  | none =>
      refine iff_of_false (by simp) ?_
      rintro ⟨entry, known, same⟩
      exact List.find?_eq_none.mp found entry known (by simpa using same)
  | some entry =>
      refine iff_of_true (by simp) ⟨entry, List.mem_of_find?_eq_some found, ?_⟩
      simpa using List.find?_some found

theorem wellFormed_of_forall_mem {d : Disk}
    (listed : ∀ entry ∈ d.places, above ∉ entry.1 ∧ d.HoldsDirectory entry.1.dropLast) : d.WellFormed := by
  constructor
  · intro place held
    by_cases root : place = []
    · subst root
      exact d.holdsDirectory_nil
    · obtain ⟨entry, inside, rfl⟩ := (get?_ne_none_iff root).mp held
      exact (listed entry inside).2
  · intro place held
    by_cases root : place = []
    · subst root
      exact List.not_mem_nil
    · obtain ⟨entry, inside, rfl⟩ := (get?_ne_none_iff root).mp held
      exact (listed entry inside).1

/-- The places on the way to one that holds something hold something. -/
theorem WellFormed.ne_none_of_prefix {d : Disk} (wellFormed : d.WellFormed) {place whole : Route}
    (before : place <+: whole) (held : d.get? whole ≠ none) : d.get? place ≠ none := by
  obtain ⟨rest, rfl⟩ := before
  induction rest generalizing place with
  | nil => simpa using held
  | cons name rest induction =>
      have next : d.get? (place ++ [name]) ≠ none := induction (by simpa using held)
      have parent := wellFormed.parents _ next
      rw [List.dropLast_concat] at parent
      exact parent.ne_none

theorem startOf_congr (here : Route) {path path' : List Char} (root : isAbsolute path = isAbsolute path') :
    startOf here path = startOf here path' := by
  rw [Disk.startOf, Disk.startOf, root]

/-- The places on the way to one that holds something hold directories. -/
theorem WellFormed.holdsDirectory_of_prefix {d : Disk} (wellFormed : d.WellFormed) {place whole : Route}
    (before : place <+: whole) (less : place ≠ whole) (held : d.get? whole ≠ none) :
    d.HoldsDirectory place := by
  obtain ⟨rest, rfl⟩ := before
  cases rest with
  | nil => simp at less
  | cons name rest =>
      have onTheWay : place ++ [name] <+: place ++ name :: rest := ⟨rest, by simp⟩
      have parent := wellFormed.parents _ (wellFormed.ne_none_of_prefix onTheWay held)
      rwa [List.dropLast_concat] at parent

/-! ## Where names lead -/

/-- The path that the link of a place holds. -/
def linkAt (d : Disk) (place : Route) : Option (List Char) :=
  match d.get? place with
  | some (.link target) => some target
  | _ => none

/-- Names lead from a place to a route through a number of links, wherever there are no other links than
those given; what else is at the places on the way does not matter. -/
inductive Leads (links : Route → Option (List Char)) : Route → List Segment → Route → Nat → Prop
  /-- No names lead nowhere else. -/
  | done {here : Route} : Leads links here [] here 0
  /-- Two points lead to the directory above. -/
  | up {here route : Route} {rest : List Segment} {count : Nat}
    (behind : Leads links here.dropLast rest route count) : Leads links here (above :: rest) route count
  /-- A name leads to its place. -/
  | down {here route : Route} {name : Segment} {rest : List Segment} {count : Nat} (named : name ≠ above)
    (plain : links (here ++ [name]) = none) (behind : Leads links (here ++ [name]) rest route count) :
    Leads links here (name :: rest) route count
  /-- The name of a link leads where the path of the link does. -/
  | follow {here middle route : Route} {name : Segment} {rest : List Segment} {target : List Char}
    {inside count : Nat} (named : name ≠ above) (linked : links (here ++ [name]) = some target)
    (through : Leads links (startOf here target) (segments target) middle inside)
    (behind : Leads links middle rest route count) :
    Leads links here (name :: rest) route (inside + count + 1)

namespace Leads

variable {links : Route → Option (List Char)} {here route : Route} {names : List Segment} {count : Nat}

theorem unique (leads : Leads links here names route count) {route' : Route} {count' : Nat}
    (leads' : Leads links here names route' count') : route = route' ∧ count = count' := by
  induction leads generalizing route' count' with
  | done =>
      cases leads'
      exact ⟨rfl, rfl⟩
  | up _ induction =>
      cases leads' with
      | up behind => exact induction behind
      | down named _ _ => exact absurd rfl named
      | follow named _ _ _ => exact absurd rfl named
  | down named plain _ induction =>
      cases leads' with
      | up _ => exact absurd rfl named
      | down _ _ behind => exact induction behind
      | follow _ linked _ _ =>
          rw [plain] at linked
          cases linked
  | follow named linked _ _ inductionThrough inductionBehind =>
      cases leads' with
      | up _ => exact absurd rfl named
      | down _ plain _ =>
          rw [linked] at plain
          cases plain
      | follow _ linked' through behind =>
          rw [linked] at linked'
          cases linked'
          obtain ⟨rfl, rfl⟩ := inductionThrough through
          obtain ⟨rfl, rfl⟩ := inductionBehind behind
          exact ⟨rfl, rfl⟩

theorem append {more : List Segment} {whole : Route} {moreCount : Nat}
    (leads : Leads links here names route count) (behind : Leads links route more whole moreCount) :
    Leads links here (names ++ more) whole (count + moreCount) := by
  induction leads with
  | done => simpa using behind
  | up _ induction => exact .up (induction behind)
  | down named plain _ induction => exact .down named plain (induction behind)
  | follow named linked through _ _ induction =>
      have followed := Leads.follow named linked through (induction behind)
      simpa only [List.cons_append, Nat.add_assoc, Nat.add_comm, Nat.add_left_comm] using followed

theorem split {more : List Segment} (leads : Leads links here (names ++ more) route count) :
    ∃ middle first second, Leads links here names middle first ∧ Leads links middle more route second ∧
      count = first + second := by
  generalize whole : names ++ more = all at leads
  induction leads generalizing names with
  | done =>
      obtain ⟨rfl, rfl⟩ := List.append_eq_nil_iff.mp whole
      exact ⟨_, 0, 0, .done, .done, rfl⟩
  | @up here route rest count behind induction =>
      cases names with
      | nil =>
          obtain rfl : more = above :: rest := whole
          exact ⟨here, 0, count, .done, .up behind, by omega⟩
      | cons name names =>
          obtain ⟨rfl, tail⟩ := List.cons.inj whole
          obtain ⟨middle, first, second, before, after, sum⟩ := induction tail
          exact ⟨middle, first, second, .up before, after, sum⟩
  | @down here route name rest count named plain behind induction =>
      cases names with
      | nil =>
          obtain rfl : more = name :: rest := whole
          exact ⟨here, 0, count, .done, .down named plain behind, by omega⟩
      | cons _ names =>
          obtain ⟨rfl, tail⟩ := List.cons.inj whole
          obtain ⟨middle, first, second, before, after, sum⟩ := induction tail
          exact ⟨middle, first, second, .down named plain before, after, sum⟩
  | @follow here _ route name rest target inside count named linked through behind _ induction =>
      cases names with
      | nil =>
          obtain rfl : more = name :: rest := whole
          exact ⟨here, 0, inside + count + 1, .done, .follow named linked through behind, by omega⟩
      | cons _ names =>
          obtain ⟨rfl, tail⟩ := List.cons.inj whole
          obtain ⟨middle, first, second, before, after, sum⟩ := induction tail
          exact ⟨middle, inside + first + 1, second, .follow named linked through before, after, by omega⟩

/-- Names lead straight down where there are no links on the way. -/
theorem straight {names : List Segment} (named : above ∉ names)
    (plain : ∀ before, before ≠ [] → before <+: names → links (here ++ before) = none) :
    Leads links here names (here ++ names) 0 := by
  induction names generalizing here with
  | nil => simpa using Leads.done
  | cons name rest induction =>
      have first : name ≠ above := fun same => named (by simp [same])
      have free : links (here ++ [name]) = none := plain [name] (by simp) (by simp)
      have behind : Leads links (here ++ [name]) rest (here ++ [name] ++ rest) 0 := by
        have namedRest : above ∉ rest := fun member => named (List.mem_cons_of_mem name member)
        refine induction namedRest fun before some inside => ?_
        have longer := plain (name :: before) (by simp) (List.cons_prefix_cons.mpr ⟨rfl, inside⟩)
        simpa using longer
      rw [List.append_assoc, List.singleton_append] at behind
      exact .down first free behind

end Leads

/-! ## Walks -/

/-- A walk arrives at a spot: what it finds on its way, step by step. -/
inductive Walks (d : Disk) (followLast : Bool) : Nat → Route → List Segment → Spot → Prop
  /-- No name is left. -/
  | arrived {links : Nat} {here : Route} : Walks d followLast links here [] ⟨here, d.get? here⟩
  /-- Two points lead to the directory above. -/
  | up {links : Nat} {here : Route} {rest : List Segment} {spot : Spot} (inside : d.HoldsDirectory here)
    (behind : Walks d followLast links here.dropLast rest spot) :
    Walks d followLast links here (above :: rest) spot
  /-- Nothing has the last name. -/
  | missing {links : Nat} {here : Route} {name : Segment} (inside : d.HoldsDirectory here)
    (named : name ≠ above) (short : ¬longestName < (Text.Utf8.encode name).length)
    (absent : d.get? (here ++ [name]) = none) :
    Walks d followLast links here [name] ⟨here ++ [name], none⟩
  /-- A link has the last name and is not followed. -/
  | stay {links : Nat} {here : Route} {name : Segment} {target : List Char} (inside : d.HoldsDirectory here)
    (named : name ≠ above) (short : ¬longestName < (Text.Utf8.encode name).length)
    (linked : d.get? (here ++ [name]) = some (.link target)) (stays : followLast = false) :
    Walks d followLast links here [name] ⟨here ++ [name], some (.link target)⟩
  /-- A link is followed. -/
  | follow {links : Nat} {here : Route} {name : Segment} {rest : List Segment} {target : List Char}
    {spot : Spot} (inside : d.HoldsDirectory here) (named : name ≠ above)
    (short : ¬longestName < (Text.Utf8.encode name).length)
    (linked : d.get? (here ++ [name]) = some (.link target)) (follows : rest ≠ [] ∨ followLast = true)
    (behind : Walks d followLast links (startOf here target) (segments target ++ rest) spot) :
    Walks d followLast (links + 1) here (name :: rest) spot
  /-- A file or a directory is entered. -/
  | down {links : Nat} {here : Route} {name : Segment} {rest : List Segment} {node : Node} {spot : Spot}
    (inside : d.HoldsDirectory here) (named : name ≠ above)
    (short : ¬longestName < (Text.Utf8.encode name).length) (held : d.get? (here ++ [name]) = some node)
    (plain : ∀ target, node ≠ .link target)
    (behind : Walks d followLast links (here ++ [name]) rest spot) :
    Walks d followLast links here (name :: rest) spot

theorem walks_of_walk {d : Disk} {followLast : Bool} {links : Nat} {here : Route} {names : List Segment}
    {spot : Spot} (walked : d.walk followLast links here names = .ok spot) :
    Walks d followLast links here names spot := by
  fun_induction walk d followLast links here names with
  | case1 =>
      cases walked
      exact .arrived
  | case2 _ _ _ mode inside induction => exact .up ⟨mode, inside⟩ (induction walked)
  | case3 => cases walked
  | case4 _ _ _ rest mode inside named short absent last =>
      cases walked
      rw [List.isEmpty_iff.mp last]
      exact .missing ⟨mode, inside⟩ named short absent
  | case5 => cases walked
  | case6 _ _ _ rest mode inside named short target linked stays =>
      cases walked
      rw [Bool.and_eq_true, List.isEmpty_iff, Bool.not_eq_true'] at stays
      rw [stays.1]
      exact .stay ⟨mode, inside⟩ named short linked stays.2
  | case7 => cases walked
  | case8 _ _ rest mode inside named short target linked follows links induction =>
      refine .follow ⟨mode, inside⟩ named short linked ?_ (induction walked)
      cases rest with
      | nil => exact .inr (by simpa using follows)
      | cons => exact .inl (List.cons_ne_nil _ _)
  | case9 _ _ _ _ mode inside named short node plain held induction =>
      exact .down ⟨mode, inside⟩ named short held (fun target same => plain target same) (induction walked)
  | case10 => cases walked

theorem walks_of_locate {d : Disk} {followLast : Bool} {path : List Char} {spot : Spot}
    (located : d.locate followLast path = .ok spot) :
    Walks d followLast mostLinks (startOf d.here path) (segments path) spot := by
  rw [locate] at located
  split at located
  · cases located
  · split at located
    · cases located
    · exact walks_of_walk located

theorem holdsDirectory_start {d : Disk} {followLast : Bool} {links : Nat} {here route : Route}
    {names : List Segment} {mode : Nat}
    (walks : Walks d followLast links here names ⟨route, some (.directory mode)⟩) :
    d.HoldsDirectory here := by
  generalize arrives : (⟨route, some (.directory mode)⟩ : Spot) = spot at walks
  cases walks with
  | arrived => exact ⟨mode, (congrArg Spot.node arrives).symm⟩
  | up inside | missing inside | stay inside | follow inside | down inside => exact inside

section Steps

variable {d : Disk} {followLast : Bool} {links : Nat} {here : Route} {name : Segment} {rest : List Segment}

theorem walk_up (inside : d.HoldsDirectory here) :
    d.walk followLast links here (above :: rest) = d.walk followLast links here.dropLast rest := by
  obtain ⟨mode, inside⟩ := inside
  rw [walk, inside]
  exact if_pos rfl

theorem walk_follow {target : List Char} (inside : d.HoldsDirectory here) (named : name ≠ above)
    (short : ¬longestName < (Text.Utf8.encode name).length)
    (linked : d.get? (here ++ [name]) = some (.link target)) (follows : rest ≠ [] ∨ followLast = true) :
    d.walk followLast (links + 1) here (name :: rest) =
      d.walk followLast links (startOf here target) (segments target ++ rest) := by
  obtain ⟨mode, inside⟩ := inside
  have goes : (rest.isEmpty && !followLast) = false := by
    rcases follows with more | followed
    · simp [more]
    · simp [followed]
  rw [walk, inside]
  simp only [named, short, linked, goes, if_false, Bool.false_eq_true]

theorem walk_down {node : Node} (inside : d.HoldsDirectory here) (named : name ≠ above)
    (short : ¬longestName < (Text.Utf8.encode name).length) (held : d.get? (here ++ [name]) = some node)
    (plain : ∀ target, node ≠ .link target) :
    d.walk followLast links here (name :: rest) = d.walk followLast links (here ++ [name]) rest := by
  obtain ⟨mode, inside⟩ := inside
  rw [walk, inside]
  simp only [named, short, held, if_false]

end Steps

theorem Walks.walk {d : Disk} {followLast : Bool} {links : Nat} {here : Route} {names : List Segment}
    {spot : Spot} (walks : Walks d followLast links here names spot) :
    d.walk followLast links here names = .ok spot := by
  induction walks with
  | arrived => rw [Disk.walk]
  | up inside _ induction => exact (walk_up inside).trans induction
  | missing inside named short absent =>
      obtain ⟨mode, inside⟩ := inside
      rw [Disk.walk, inside]
      simp [named, short, absent]
  | stay inside named short linked stays =>
      obtain ⟨mode, inside⟩ := inside
      rw [Disk.walk, inside]
      simp [named, short, linked, stays]
  | follow inside named short linked follows _ induction =>
      exact (walk_follow inside named short linked follows).trans induction
  | down inside named short held plain _ induction =>
      exact (walk_down inside named short held plain).trans induction

namespace Walks

variable {d : Disk} {followLast : Bool} {links : Nat} {here : Route} {names : List Segment} {spot : Spot}

/-- A walk that follows the last link goes where the names lead; so does one that finds nothing. -/
theorem leads (walks : Walks d followLast links here names spot)
    (settled : followLast = true ∨ spot.node = none) :
    ∃ count, Leads d.linkAt here names spot.route count := by
  induction walks with
  | arrived => exact ⟨0, .done⟩
  | up _ _ induction =>
      obtain ⟨count, behind⟩ := induction settled
      exact ⟨count, .up behind⟩
  | missing _ named _ absent => exact ⟨0, .down named (by rw [linkAt, absent]) .done⟩
  | stay _ _ _ _ stays =>
      rcases settled with follows | nothing
      · rw [stays] at follows
        cases follows
      · cases nothing
  | follow _ named _ linked _ _ induction =>
      obtain ⟨count, behind⟩ := induction settled
      obtain ⟨middle, first, second, through, after, -⟩ := behind.split
      exact ⟨first + second + 1, .follow named (by rw [linkAt, linked]) through after⟩
  | down _ named _ held plain _ induction =>
      obtain ⟨count, behind⟩ := induction settled
      refine ⟨count, .down named ?_ behind⟩
      rw [linkAt, held]
      split
      · rename_i same
        exact absurd (Option.some.inj same) (plain _)
      · rfl

/-- Behind what is no directory no name is left. -/
theorem arrives (walks : Walks d followLast links here names spot) (ends : ¬d.HoldsDirectory here) :
    spot = ⟨here, d.get? here⟩ := by
  cases walks with
  | arrived => rfl
  | up inside | missing inside | stay inside | follow inside | down inside => exact absurd inside ends

/-- What a walk finds is there, and what it misses is missing in a directory. -/
theorem spot_eq (walks : Walks d followLast links here names spot) (start : d.HoldsDirectory here)
    (wellFormed : d.WellFormed) :
    d.get? spot.route = spot.node ∧ above ∉ spot.route ∧
      (spot.node = none → ∃ place name, spot.route = place ++ [name] ∧ d.HoldsDirectory place) ∧
      (followLast = true → d.linkAt spot.route = none) := by
  induction walks with
  | arrived =>
      obtain ⟨mode, held⟩ := start
      refine ⟨rfl, wellFormed.names _ (by simp [held]), fun nothing => ?_, fun _ => by rw [linkAt, held]⟩
      rw [held] at nothing
      cases nothing
  | up _ _ induction => exact induction (wellFormed.parents _ start.ne_none)
  | @missing _ here name inside named _ absent =>
      refine ⟨absent, ?_, fun _ => ⟨here, name, rfl, inside⟩, fun _ => by rw [linkAt, absent]⟩
      intro member
      rcases List.mem_append.mp member with before | last
      · exact wellFormed.names _ inside.ne_none before
      · exact named (List.mem_singleton.mp last).symm
  | stay inside _ _ linked stays =>
      refine ⟨linked, wellFormed.names _ (by simp [linked]), nofun, fun follows => ?_⟩
      rw [stays] at follows
      cases follows
  | follow inside _ _ _ _ _ induction => exact induction (inside.startOf _)
  | @down _ here name rest node _ inside _ _ held plain behind induction =>
      cases node with
      | link target => exact absurd rfl (plain target)
      | directory mode => exact induction ⟨mode, held⟩
      | file content mode =>
          have ends : ¬d.HoldsDirectory (here ++ [name]) := by
            rintro ⟨mode, directory⟩
            simp [held] at directory
          rw [behind.arrives ends]
          exact ⟨rfl, wellFormed.names _ (by simp [held]), by simp [held], fun _ => by rw [linkAt, held]⟩

/-- Where a walk finds nothing, no longer walk finds anything. -/
theorem walk_append_ne_ok (walks : Walks d false links here names spot) (nothing : spot.node = none)
    (start : d.HoldsDirectory here) (wellFormed : d.WellFormed) (followLast : Bool) (rest : List Segment)
    {longer : Spot} (something : longer.node ≠ none) :
    d.walk followLast links here (names ++ rest) ≠ .ok longer := by
  induction walks with
  | arrived => exact absurd nothing start.ne_none
  | up inside _ induction =>
      rw [List.cons_append, walk_up inside]
      exact induction nothing (wellFormed.parents _ start.ne_none)
  | missing inside named short absent =>
      obtain ⟨mode, inside⟩ := inside
      rw [List.singleton_append, Disk.walk, inside]
      simp only [named, short, absent, if_false]
      cases rest with
      | nil =>
          rintro ⟨⟩
          exact something rfl
      | cons next rest =>
          intro walked
          cases walked
  | stay => cases nothing
  | follow inside named short linked follows _ induction =>
      have more := follows.resolve_right Bool.false_ne_true
      rw [List.cons_append, walk_follow inside named short linked
        (.inl fun none => more (List.append_eq_nil_iff.mp none).1), ← List.append_assoc]
      exact induction nothing (inside.startOf _)
  | @down _ here name more node _ inside named short held plain behind induction =>
      rw [List.cons_append, walk_down inside named short held plain]
      cases node with
      | link target => exact absurd rfl (plain target)
      | directory mode => exact induction nothing ⟨mode, held⟩
      | file content mode =>
          have ends : ¬d.HoldsDirectory (here ++ [name]) := by
            rintro ⟨mode, directory⟩
            simp [held] at directory
          simp [behind.arrives ends, held] at nothing

end Walks

end Stencil.Disk
