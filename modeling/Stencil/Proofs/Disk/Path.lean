import Stencil.Disk.Operations

/-!
# Splitting and joining paths

Splitting a text takes back the joining of pieces without the separator, and the segments of a path that is
built from names are these names.
-/

namespace Stencil.Disk

/-! ## Pieces -/

/-- A text without separators stays with the first piece behind it. -/
theorem splitAtChar_append {separator : Char} {before : List Char} (free : separator ∉ before)
    {rest piece : List Char} {pieces : List (List Char)}
    (split : splitAtChar separator rest = piece :: pieces) :
    splitAtChar separator (before ++ rest) = (before ++ piece) :: pieces := by
  induction before with
  | nil => exact split
  | cons c before induction =>
      have other : c ≠ separator := fun same => free (by simp [same])
      have freeRest : separator ∉ before := fun member => free (List.mem_cons_of_mem c member)
      rw [List.cons_append, splitAtChar, if_neg other, induction freeRest]
      rfl

theorem splitAtChar_of_not_mem {separator : Char} {s : List Char} (free : separator ∉ s) :
    splitAtChar separator s = [s] := by
  have split : splitAtChar separator [] = [[]] := rfl
  simpa using splitAtChar_append free split

theorem splitAtChar_append_separator {separator : Char} (before behind : List Char) :
    splitAtChar separator (before ++ separator :: behind) =
      splitAtChar separator before ++ splitAtChar separator behind := by
  induction before with
  | nil => simp [splitAtChar]
  | cons c before induction =>
      by_cases same : c = separator
      · simp [splitAtChar, same, induction]
      · cases pieces : splitAtChar separator before with
        | nil => exact absurd pieces (splitAtChar_ne_nil separator before)
        | cons piece others => simp [splitAtChar, same, induction, pieces]

theorem not_mem_of_mem_splitAtChar {separator : Char} {s piece : List Char}
    (member : piece ∈ splitAtChar separator s) : separator ∉ piece := by
  induction s generalizing piece with
  | nil =>
      obtain rfl : piece = [] := by simpa [splitAtChar] using member
      exact List.not_mem_nil
  | cons c rest induction =>
      rw [splitAtChar] at member
      by_cases same : c = separator
      · rw [if_pos same] at member
        rcases List.mem_cons.mp member with rfl | later
        · exact List.not_mem_nil
        · exact induction later
      · rw [if_neg same] at member
        cases pieces : splitAtChar separator rest with
        | nil => exact absurd pieces (splitAtChar_ne_nil separator rest)
        | cons first others =>
            rw [pieces] at member
            rcases List.mem_cons.mp member with rfl | later
            · have free : separator ∉ first := induction (pieces ▸ List.mem_cons_self)
              simp [Ne.symm same, free]
            · exact induction (pieces ▸ List.mem_cons_of_mem first later)

theorem mem_joinWith {separator c : Char} {pieces : List (List Char)}
    (member : c ∈ joinWith separator pieces) : c = separator ∨ ∃ piece ∈ pieces, c ∈ piece := by
  induction pieces with
  | nil => cases member
  | cons piece pieces induction =>
      cases pieces with
      | nil => exact .inr ⟨piece, List.mem_cons_self, member⟩
      | cons next pieces =>
          rcases List.mem_append.mp member with inside | behind
          · exact .inr ⟨piece, List.mem_cons_self, inside⟩
          rcases List.mem_cons.mp behind with same | later
          · exact .inl same
          rcases induction later with same | ⟨other, known, inside⟩
          · exact .inl same
          · exact .inr ⟨other, List.mem_cons_of_mem piece known, inside⟩

theorem mem_of_mem_splitAtChar {separator c : Char} {s piece : List Char}
    (known : piece ∈ splitAtChar separator s) (inside : c ∈ piece) : c ∈ s := by
  induction s generalizing piece with
  | nil =>
      obtain rfl : piece = [] := by simpa [splitAtChar] using known
      cases inside
  | cons d rest induction =>
      rw [splitAtChar] at known
      by_cases same : d = separator
      · rw [if_pos same] at known
        rcases List.mem_cons.mp known with rfl | later
        · cases inside
        · exact List.mem_cons_of_mem d (induction later inside)
      · rw [if_neg same] at known
        cases pieces : splitAtChar separator rest with
        | nil => exact absurd pieces (splitAtChar_ne_nil separator rest)
        | cons first others =>
            rw [pieces] at known
            rcases List.mem_cons.mp known with rfl | later
            · rcases List.mem_cons.mp inside with rfl | behind
              · exact List.mem_cons_self
              · exact List.mem_cons_of_mem d (induction (pieces ▸ List.mem_cons_self) behind)
            · exact List.mem_cons_of_mem d
                (induction (pieces ▸ List.mem_cons_of_mem first later) inside)

/-- The first piece of a text stands at its head. -/
theorem exists_append_of_splitAtChar {separator : Char} {s piece : List Char} {pieces : List (List Char)}
    (split : splitAtChar separator s = piece :: pieces) : ∃ behind, s = piece ++ behind := by
  have joined := joinWith_splitAtChar separator s
  rw [split] at joined
  cases pieces with
  | nil => exact ⟨[], by rw [← joined, joinWith, List.append_nil]⟩
  | cons next pieces => exact ⟨_, joined.symm⟩

theorem splitAtChar_joinWith {separator : Char} {pieces : List (List Char)} (some : pieces ≠ [])
    (free : ∀ piece ∈ pieces, separator ∉ piece) :
    splitAtChar separator (joinWith separator pieces) = pieces := by
  induction pieces with
  | nil => exact absurd rfl some
  | cons piece pieces induction =>
      have freeFirst : separator ∉ piece := free piece List.mem_cons_self
      cases pieces with
      | nil => exact splitAtChar_of_not_mem freeFirst
      | cons next pieces =>
          have others := induction (List.cons_ne_nil next pieces)
            fun other known => free other (List.mem_cons_of_mem piece known)
          have behind : splitAtChar separator (separator :: joinWith separator (next :: pieces)) =
              [] :: next :: pieces := by
            rw [splitAtChar, if_pos rfl, others]
          rw [joinWith, splitAtChar_append freeFirst behind, List.append_nil]
          exact List.cons_ne_nil next pieces

/-! ## Segments -/

/-- Whether a text is a name that a path can hold as a segment. -/
def IsName (s : Segment) : Prop :=
  s ≠ [] ∧ s ≠ ['.'] ∧ '/' ∉ s

instance : DecidablePred IsName :=
  fun _ => inferInstanceAs (Decidable (_ ∧ _ ∧ _))

theorem isName_of_mem_segments {path : List Char} {name : Segment} (member : name ∈ segments path) :
    IsName name := by
  obtain ⟨known, meaningful⟩ := List.mem_filter.mp member
  have free := not_mem_of_mem_splitAtChar known
  simp only [Bool.and_eq_true, Bool.not_eq_true', List.isEmpty_eq_false_iff, decide_eq_true_eq]
    at meaningful
  exact ⟨meaningful.1, meaningful.2, free⟩

theorem filter_names {names : List Segment} (areNames : ∀ name ∈ names, IsName name) :
    names.filter (fun segment => !segment.isEmpty && segment ≠ ['.']) = names := by
  rw [List.filter_eq_self]
  intro name known
  obtain ⟨nonempty, notPoint, -⟩ := areNames name known
  simp [nonempty, notPoint]

theorem segments_joinWith {names : List Segment} (areNames : ∀ name ∈ names, IsName name) :
    segments (joinWith '/' names) = names := by
  cases names with
  | nil => rfl
  | cons name names =>
      rw [segments, splitAtChar_joinWith (List.cons_ne_nil name names)
        fun other known => (areNames other known).2.2]
      exact filter_names areNames

theorem segments_slash (path : List Char) : segments ('/' :: path) = segments path := by
  rw [segments, splitAtChar, if_pos rfl]
  rfl

theorem rootOf_cases (path : List Char) :
    rootOf path = [] ∨ rootOf path = ['/'] ∨ rootOf path = ['/', '/'] := by
  unfold rootOf
  split <;> simp

theorem isAbsolute_rootOf (path : List Char) : isAbsolute (rootOf path) = isAbsolute path := by
  unfold rootOf
  split
  · rfl
  · rfl
  · rfl
  · rename_i relative
    cases path with
    | nil => rfl
    | cons c rest =>
        have other : c ≠ '/' := fun same => relative rest (by rw [same])
        simp [isAbsolute, other]

/-! ## Paths of names -/

theorem isAbsolute_append_joinWith {root : List Char} {names : List Segment}
    (areNames : ∀ name ∈ names, IsName name) :
    isAbsolute (root ++ joinWith '/' names) = isAbsolute root := by
  cases root with
  | cons c root => rfl
  | nil =>
      cases names with
      | nil => rfl
      | cons name names =>
          obtain ⟨nonempty, -, free⟩ := areNames name List.mem_cons_self
          cases name with
          | nil => exact absurd rfl nonempty
          | cons c name =>
              have other : c ≠ '/' := fun same => free (by simp [same])
              cases names <;> simp [isAbsolute, joinWith, other]

theorem isAbsolute_joinWith {names : List Segment} (areNames : ∀ name ∈ names, IsName name) :
    isAbsolute (joinWith '/' names) = false := by
  have joined : isAbsolute ([] ++ joinWith '/' names) = false := isAbsolute_append_joinWith areNames
  rwa [List.nil_append] at joined

theorem segments_rootOf_append (path : List Char) {names : List Segment}
    (areNames : ∀ name ∈ names, IsName name) :
    segments (rootOf path ++ joinWith '/' names) = names := by
  rcases rootOf_cases path with root | root | root
  · rw [root]
    exact segments_joinWith areNames
  · rw [root, List.singleton_append, segments_slash]
    exact segments_joinWith areNames
  · rw [root, List.cons_append, List.singleton_append, segments_slash, segments_slash]
    exact segments_joinWith areNames

theorem segments_pathUp (path : List Char) {up : List Segment} (areNames : ∀ name ∈ up, IsName name) :
    segments (pathUp (rootOf path) up) = up.reverse := by
  have areNamesDown : ∀ name ∈ up.reverse, IsName name :=
    fun name known => areNames name (List.mem_reverse.mp known)
  have built := segments_rootOf_append path areNamesDown
  rw [pathUp]
  split
  · rename_i isEmpty
    rw [List.isEmpty_iff.mp isEmpty] at built
    exact built
  · exact built

theorem isAbsolute_pathUp (path : List Char) {up : List Segment} (areNames : ∀ name ∈ up, IsName name) :
    isAbsolute (pathUp (rootOf path) up) = isAbsolute path := by
  have areNamesDown : ∀ name ∈ up.reverse, IsName name :=
    fun name known => areNames name (List.mem_reverse.mp known)
  have built : isAbsolute (rootOf path ++ joinWith '/' up.reverse) = isAbsolute path :=
    (isAbsolute_append_joinWith areNamesDown).trans (isAbsolute_rootOf path)
  rw [pathUp]
  split
  · rename_i isEmpty
    rw [List.isEmpty_iff.mp isEmpty] at built
    exact built
  · exact built

private theorem isName_of_mem_below {directory : List Char} {names : List Segment}
    (areNames : ∀ name ∈ names, IsName name) :
    ∀ name ∈ (segments directory ++ names).reverse, IsName name := by
  intro name known
  rcases List.mem_append.mp (List.mem_reverse.mp known) with before | inside
  · exact isName_of_mem_segments before
  · exact areNames name inside

theorem segments_below (directory : List Char) {names : List Segment}
    (areNames : ∀ name ∈ names, IsName name) :
    segments (below directory names) = segments directory ++ names := by
  rw [below, segments_pathUp directory (isName_of_mem_below areNames), List.reverse_reverse]

theorem isAbsolute_below (directory : List Char) {names : List Segment}
    (areNames : ∀ name ∈ names, IsName name) :
    isAbsolute (below directory names) = isAbsolute directory :=
  isAbsolute_pathUp directory (isName_of_mem_below areNames)

end Stencil.Disk
