import Mathlib
import Stencil.Proofs.Disk.Walking

/-!
# Resolved routes

The route that a path resolves to is where its names lead, if they lead anywhere.  A link that is looked
into is not met again before it is left: to follow it from inside takes at least as many steps as to leave
it.  So no more links are looked into at once than the disk has places.
-/

namespace Stencil.Disk

variable {d : Disk}

/-- A link leads to a route through a number of further links. -/
def LinkLeads (links : Route → Option (List Char)) (place route : Route) (count : Nat) : Prop :=
  ∃ target, links place = some target ∧
    Leads links (startOf place.dropLast target) (segments target) route count

theorem LinkLeads.unique {links : Route → Option (List Char)} {place route route' : Route}
    {count count' : Nat} (leads : LinkLeads links place route count)
    (leads' : LinkLeads links place route' count') : route = route' ∧ count = count' := by
  obtain ⟨target, linked, through⟩ := leads
  obtain ⟨target', linked', through'⟩ := leads'
  rw [linked] at linked'
  cases linked'
  exact through.unique through'

/-! ## Steps -/

/-- What is remembered of a link. -/
def Seen.recall (seen : Seen) (place : Route) : Option (Option Route) :=
  (seen.find? (·.1 = place)).map (·.2)

@[simp]
theorem Seen.recall_cons (place other : Route) (route : Option Route) (seen : Seen) :
    Seen.recall ((place, route) :: seen) other =
      if place = other then some route else seen.recall other := by
  by_cases same : place = other
  · simp [Seen.recall, same]
  · simp [Seen.recall, same]

theorem resolveFrom_nil (depth : Nat) (here : Route) (seen : Seen) :
    resolveFrom d depth here [] seen = (here, true, seen) := by
  rw [resolveFrom]

theorem resolveFrom_above (depth : Nat) (here : Route) (rest : List Segment) (seen : Seen) :
    resolveFrom d depth here (above :: rest) seen = resolveFrom d depth here.dropLast rest seen := by
  rw [resolveFrom, if_pos rfl]

theorem resolveFrom_plain {here : Route} {name : Segment} (named : name ≠ above)
    (plain : d.linkAt (here ++ [name]) = none) (depth : Nat) (rest : List Segment) (seen : Seen) :
    resolveFrom d depth here (name :: rest) seen = resolveFrom d depth (here ++ [name]) rest seen := by
  rw [resolveFrom, if_neg named]
  simp only
  split
  · rename_i held
    simp [linkAt, held] at plain
  · rfl

theorem get?_of_linkAt {place : Route} {target : List Char} (linked : d.linkAt place = some target) :
    d.get? place = some (.link target) := by
  rw [linkAt] at linked
  split at linked
  · rename_i held
    cases linked
    exact held
  · cases linked

theorem resolveFrom_known {here known : Route} {name : Segment} {target : List Char} {seen : Seen}
    (named : name ≠ above) (linked : d.linkAt (here ++ [name]) = some target)
    (recalled : seen.recall (here ++ [name]) = some (some known)) (depth : Nat) (rest : List Segment) :
    resolveFrom d depth here (name :: rest) seen = resolveFrom d depth known rest seen := by
  obtain ⟨⟨place, route⟩, found, rfl⟩ := Option.map_eq_some_iff.mp recalled
  rw [resolveFrom, if_neg named]
  simp only [get?_of_linkAt linked, found]

theorem resolveFrom_fresh {here middle : Route} {name : Segment} {target : List Char} {seen after : Seen}
    {depth : Nat} (named : name ≠ above) (linked : d.linkAt (here ++ [name]) = some target)
    (fresh : seen.recall (here ++ [name]) = none)
    (inside : resolveFrom d depth (startOf here target) (segments target) ((here ++ [name], none) :: seen) =
      (middle, true, after)) (rest : List Segment) :
    resolveFrom d (depth + 1) here (name :: rest) seen =
      resolveFrom d (depth + 1) middle rest ((here ++ [name], some middle) :: after) := by
  have missing := Option.map_eq_none_iff.mp fresh
  rw [resolveFrom, if_neg named]
  simp only [get?_of_linkAt linked, missing, inside]

/-! ## Links that are looked into -/

/-- What is remembered is right, and exactly the links in `opened` are looked into. -/
structure Memo (d : Disk) (opened : List Route) (seen : Seen) : Prop where
  /-- Each route that is remembered is that of its link. -/
  known : ∀ place route, seen.recall place = some (some route) →
    ∃ count, LinkLeads d.linkAt place route count
  /-- Each link without a route is looked into. -/
  pending : ∀ place, place ∈ opened ↔ seen.recall place = some none
  /-- They are links. -/
  links : ∀ place ∈ opened, d.linkAt place ≠ none
  /-- They are different. -/
  distinct : opened.Nodup

/-- At first nothing is remembered. -/
theorem memo_nil (d : Disk) : Memo d [] [] :=
  ⟨by simp [Seen.recall], by simp [Seen.recall], by simp, List.nodup_nil⟩

theorem mem_places_of_linkAt {place : Route} (linked : d.linkAt place ≠ none) :
    place ∈ d.places.map (·.1) := by
  rw [linkAt, get?] at linked
  by_cases root : place = []
  · simp [root] at linked
  · rw [if_neg root] at linked
    cases found : d.places.find? (·.1 = place) with
    | none => simp [found] at linked
    | some entry =>
        have same : entry.1 = place := by simpa using List.find?_some found
        exact same ▸ List.mem_map_of_mem (List.mem_of_find?_eq_some found)

theorem Memo.open {opened : List Route} {seen : Seen} (memo : Memo d opened seen) {place : Route}
    (linked : d.linkAt place ≠ none) (fresh : seen.recall place = none) :
    Memo d (place :: opened) ((place, none) :: seen) := by
  have new : place ∉ opened := by
    intro member
    rw [memo.pending, fresh] at member
    cases member
  refine ⟨fun other route recalled => ?_, fun other => ?_, ?_, List.nodup_cons.mpr ⟨new, memo.distinct⟩⟩
  · rw [Seen.recall_cons] at recalled
    split at recalled
    · cases recalled
    · exact memo.known other route recalled
  · rw [Seen.recall_cons, List.mem_cons, memo.pending]
    by_cases same : place = other
    · simp [same]
    · simp [same, Ne.symm same]
  · intro other member
    rcases List.mem_cons.mp member with rfl | old
    · exact linked
    · exact memo.links other old

theorem Memo.close {opened : List Route} {seen : Seen} {place route : Route} {count : Nat}
    (memo : Memo d (place :: opened) seen) (leads : LinkLeads d.linkAt place route count) :
    Memo d opened ((place, some route) :: seen) := by
  obtain ⟨new, distinct⟩ := List.nodup_cons.mp memo.distinct
  refine ⟨fun other route' recalled => ?_, fun other => ?_,
    fun other member => memo.links other (List.mem_cons_of_mem place member), distinct⟩
  · rw [Seen.recall_cons] at recalled
    split at recalled
    · rename_i same
      cases recalled
      exact ⟨count, same ▸ leads⟩
    · exact memo.known other route' recalled
  · rw [Seen.recall_cons]
    by_cases same : place = other
    · subst same
      simpa using new
    · rw [if_neg same, ← memo.pending, List.mem_cons]
      simp [Ne.symm same]

/-- One more link can be looked into as long as one is left. -/
theorem Memo.depth_pos {opened : List Route} {seen : Seen} (memo : Memo d opened seen) {place : Route}
    (linked : d.linkAt place ≠ none) (fresh : seen.recall place = none) {depth : Nat}
    (enough : d.places.length ≤ depth + opened.length) : 0 < depth := by
  have wider := memo.open linked fresh
  have bounded := wider.distinct.length_le_of_subset fun other member =>
    mem_places_of_linkAt (wider.links other member)
  rw [List.length_cons, List.length_map] at bounded
  omega

/-- There is room to look into one more link, and what is left is enough from inside it. -/
theorem Memo.depth_succ {opened : List Route} {seen : Seen} (memo : Memo d opened seen) {place : Route}
    (linked : d.linkAt place ≠ none) (fresh : seen.recall place = none) {depth : Nat}
    (enough : d.places.length ≤ depth + opened.length) :
    ∃ lower, depth = lower + 1 ∧ d.places.length ≤ lower + (place :: opened).length := by
  obtain ⟨lower, rfl⟩ := Nat.exists_eq_succ_of_ne_zero (Nat.ne_of_gt (memo.depth_pos linked fresh enough))
  exact ⟨lower, rfl, by rw [List.length_cons]; omega⟩

theorem resolveFrom_of_leads {here route : Route} {names : List Segment} {count : Nat}
    (leads : Leads d.linkAt here names route count) {depth : Nat} {seen : Seen} {opened : List Route}
    (memo : Memo d opened seen)
    (shorter : ∀ place ∈ opened, ∀ end_ whole, LinkLeads d.linkAt place end_ whole → count ≤ whole)
    (enough : d.places.length ≤ depth + opened.length) :
    ∃ after, resolveFrom d depth here names seen = (route, true, after) ∧ Memo d opened after := by
  induction leads generalizing depth seen opened with
  | done => exact ⟨seen, resolveFrom_nil _ _ _, memo⟩
  | up _ induction =>
      rw [resolveFrom_above]
      exact induction memo shorter enough
  | down named plain _ induction =>
      rw [resolveFrom_plain named plain]
      exact induction memo shorter enough
  | @follow here middle route name rest target inside count named linked through behind inductionThrough
      inductionBehind =>
      have leadsLink : LinkLeads d.linkAt (here ++ [name]) middle inside :=
        ⟨target, linked, by rwa [List.dropLast_concat]⟩
      have isLink : d.linkAt (here ++ [name]) ≠ none := by simp [linked]
      have shorterBehind : ∀ place ∈ opened, ∀ end_ whole,
          LinkLeads d.linkAt place end_ whole → count ≤ whole := by
        intro place member end_ whole leadsPlace
        have := shorter place member end_ whole leadsPlace
        omega
      cases recalled : seen.recall (here ++ [name]) with
      | some remembered =>
          cases remembered with
          | some known =>
              obtain ⟨count', leadsLink'⟩ := memo.known _ _ recalled
              obtain ⟨rfl, -⟩ := leadsLink.unique leadsLink'
              rw [resolveFrom_known named linked recalled]
              exact inductionBehind memo shorterBehind enough
          | none =>
              -- The link is looked into: following it from inside would be too long.
              have := shorter _ ((memo.pending _).mpr recalled) middle inside leadsLink
              omega
      | none =>
          obtain ⟨depth, rfl, inner⟩ := memo.depth_succ isLink recalled enough
          have shorterThrough : ∀ place ∈ (here ++ [name]) :: opened, ∀ end_ whole,
              LinkLeads d.linkAt place end_ whole → inside ≤ whole := by
            intro place member end_ whole leadsPlace
            rcases List.mem_cons.mp member with rfl | old
            · exact Nat.le_of_eq (leadsLink.unique leadsPlace).2
            · have := shorter place old end_ whole leadsPlace
              omega
          obtain ⟨seenThrough, resolved, memoThrough⟩ :=
            inductionThrough (memo.open isLink recalled) shorterThrough inner
          rw [resolveFrom_fresh named linked recalled resolved]
          exact inductionBehind (memoThrough.close leadsLink) shorterBehind enough

/-! ## Resolving -/

theorem cancelAbove_eq_self {route : Route} (named : above ∉ route) : cancelAbove route = route := by
  suffices from_ : ∀ done : Route, route.foldl
      (fun done name => if name = above then done.dropLast else done ++ [name]) done = done ++ route by
    exact from_ []
  induction route with
  | nil => simp
  | cons name rest induction =>
      intro done
      have other : name ≠ above := fun same => named (by simp [same])
      rw [List.foldl_cons, if_neg other, induction fun member => named (List.mem_cons_of_mem name member)]
      simp

/-- A path resolves to where its names lead. -/
theorem resolve_of_leads {path : List Char} {route : Route} {count : Nat}
    (leads : Leads d.linkAt (startOf d.here path) (segments path) route count) (named : above ∉ route) :
    d.resolve path = route := by
  obtain ⟨after, resolved, -⟩ := resolveFrom_of_leads leads d.memo_nil (by simp) (Nat.le_refl d.places.length)
  rw [resolve, resolved, cancelAbove_eq_self named]

/-! ## Disks with the same links -/

theorem resolveFrom_pending {here : Route} {name : Segment} {target : List Char} {seen : Seen}
    (named : name ≠ above) (linked : d.linkAt (here ++ [name]) = some target)
    (recalled : seen.recall (here ++ [name]) = some none) (depth : Nat) (rest : List Segment) :
    resolveFrom d depth here (name :: rest) seen = (here ++ [name] ++ rest, false, seen) := by
  obtain ⟨⟨place, route⟩, found, rfl⟩ := Option.map_eq_some_iff.mp recalled
  rw [resolveFrom, if_neg named]
  simp only [get?_of_linkAt linked, found]

theorem resolveFrom_lost {here middle : Route} {name : Segment} {target : List Char} {seen after : Seen}
    {depth : Nat} (named : name ≠ above) (linked : d.linkAt (here ++ [name]) = some target)
    (fresh : seen.recall (here ++ [name]) = none)
    (inside : resolveFrom d depth (startOf here target) (segments target) ((here ++ [name], none) :: seen) =
      (middle, false, after)) (rest : List Segment) :
    resolveFrom d (depth + 1) here (name :: rest) seen = (middle ++ rest, false, after) := by
  have missing := Option.map_eq_none_iff.mp fresh
  rw [resolveFrom, if_neg named]
  simp only [get?_of_linkAt linked, missing, inside]

theorem Memo.congr {d' : Disk} (links : d'.linkAt = d.linkAt) {opened : List Route} {seen : Seen}
    (memo : Memo d opened seen) : Memo d' opened seen :=
  ⟨links ▸ memo.known, memo.pending, links ▸ memo.links, memo.distinct⟩

/-- Two disks with the same links resolve names alike as long as both look into enough links; where no link
leads back to itself, what is remembered stays right. -/
theorem resolveFrom_congr {d' : Disk} (links : d'.linkAt = d.linkAt) {depth depth' : Nat} {here : Route}
    {names : List Segment} {seen : Seen} {opened : List Route} (memo : Memo d opened seen)
    (enough : d.places.length ≤ depth + opened.length) (enough' : d'.places.length ≤ depth' + opened.length) :
    resolveFrom d' depth' here names seen = resolveFrom d depth here names seen ∧
      ∀ route after, resolveFrom d depth here names seen = (route, true, after) →
        Memo d opened after ∧ ∃ count, Leads d.linkAt here names route count := by
  fun_induction resolveFrom d depth here names seen generalizing depth' opened with
  | case1 depth here seen =>
      refine ⟨resolveFrom_nil _ _ _, fun route after same => ?_⟩
      cases same
      exact ⟨memo, 0, .done⟩
  | case2 depth here seen rest induction =>
      obtain ⟨same, leads⟩ := induction memo enough enough'
      refine ⟨(resolveFrom_above _ _ _ _).trans same, fun route after resolved => ?_⟩
      obtain ⟨kept, count, behind⟩ := leads route after resolved
      exact ⟨kept, count, .up behind⟩
  | case3 depth here seen name rest named place target held first known found =>
      rename_i induction
      have linked : d.linkAt place = some target := by rw [linkAt, held]
      have recalled : seen.recall place = some (some known) := Option.map_eq_some_iff.mpr ⟨_, found, rfl⟩
      obtain ⟨same, leads⟩ := induction memo enough enough'
      refine ⟨(resolveFrom_known named (links ▸ linked) recalled depth' rest).trans same,
        fun route after resolved => ?_⟩
      obtain ⟨kept, count, behind⟩ := leads route after resolved
      obtain ⟨inside, target', linked', through⟩ := memo.known place known recalled
      cases linked.symm.trans linked'
      rw [List.dropLast_concat] at through
      exact ⟨kept, _, .follow named linked through behind⟩
  | case4 depth here seen name rest named place target held first =>
      rename_i found
      have linked : d.linkAt place = some target := by rw [linkAt, held]
      have recalled : seen.recall place = some none := Option.map_eq_some_iff.mpr ⟨_, found, rfl⟩
      exact ⟨resolveFrom_pending named (links ▸ linked) recalled depth' rest, fun _ _ same => by cases same⟩
  | case5 here seen name rest named place target held =>
      rename_i missing
      have linked : d.linkAt place ≠ none := by simp [linkAt, held]
      exact absurd (memo.depth_pos linked (Option.map_eq_none_iff.mpr missing) enough) (Nat.lt_irrefl 0)
  | case6 here seen name rest named place target held missing depth route after inside =>
      rename_i induction
      have linked : d.linkAt place = some target := by rw [linkAt, held]
      have isLink : d.linkAt place ≠ none := by simp [linked]
      have fresh : seen.recall place = none := Option.map_eq_none_iff.mpr missing
      obtain ⟨_, one, inner⟩ := memo.depth_succ isLink fresh enough
      cases one
      obtain ⟨depth', rfl, inner'⟩ := (memo.congr links).depth_succ (links ▸ isLink) fresh enough'
      obtain ⟨same, -⟩ := induction (memo.open isLink fresh) inner inner'
      exact ⟨resolveFrom_lost named (links ▸ linked) fresh (same.trans inside) rest, fun _ _ same => by cases same⟩
  | case7 here seen name rest named place target held missing depth route after inside inductionThrough =>
      rename_i inductionBehind
      have linked : d.linkAt place = some target := by rw [linkAt, held]
      have isLink : d.linkAt place ≠ none := by simp [linked]
      have fresh : seen.recall place = none := Option.map_eq_none_iff.mpr missing
      obtain ⟨_, one, inner⟩ := memo.depth_succ isLink fresh enough
      cases one
      obtain ⟨depth', rfl, inner'⟩ := (memo.congr links).depth_succ (links ▸ isLink) fresh enough'
      obtain ⟨same, leadsThrough⟩ := inductionThrough (memo.open isLink fresh) inner inner'
      obtain ⟨kept, countThrough, through⟩ := leadsThrough route after inside
      have leadsLink : LinkLeads d.linkAt place route countThrough :=
        ⟨target, linked, by rwa [List.dropLast_concat]⟩
      obtain ⟨sameBehind, leadsBehind⟩ := inductionBehind (kept.close leadsLink) enough enough'
      refine ⟨(resolveFrom_fresh named (links ▸ linked) fresh (same.trans inside) rest).trans sameBehind,
        fun route' after' resolved => ?_⟩
      obtain ⟨kept', count, behind⟩ := leadsBehind route' after' resolved
      exact ⟨kept', _, .follow named linked through behind⟩
  | case8 depth here seen name rest named place plain =>
      rename_i induction
      have free : d.linkAt place = none := by
        rw [linkAt]
        split
        · rename_i held
          exact absurd held (plain _)
        · rfl
      obtain ⟨same, leads⟩ := induction memo enough enough'
      refine ⟨(resolveFrom_plain named (links ▸ free) depth' rest seen).trans same, fun route after resolved => ?_⟩
      obtain ⟨kept, count, behind⟩ := leads route after resolved
      exact ⟨kept, count, .down named free behind⟩

/-- What a path resolves to depends on the links of the disk alone, and on the current directory. -/
theorem resolve_congr {d' : Disk} (links : d'.linkAt = d.linkAt) (here : d'.here = d.here) (path : List Char) :
    d'.resolve path = d.resolve path := by
  have same (start : Route) (names : List Segment) :
      resolveFrom d' d'.places.length start names [] = resolveFrom d d.places.length start names [] :=
    (resolveFrom_congr links d.memo_nil (Nat.le_refl _) (Nat.le_refl _)).1
  rw [resolve, resolve, here, same]

end Stencil.Disk
