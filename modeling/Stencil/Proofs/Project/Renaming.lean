import Stencil.Proofs.Materialize
import Stencil.Proofs.Project.Naming

/-!
# Where renamed paths lead

Renaming works segment by segment, since no token and nothing that a token stands for holds a slash.  So a
path that leads down from a directory name by name still does so when it is renamed, unless a token stands
for nothing: then a segment can vanish, or two points can be left of it.
-/

namespace Stencil.Project

open Disk

variable {name : List Char}

/-! ## Tokens -/

theorem tokenAt?_spelling (token : Token) (rest : List Char) :
    tokenAt? (token.spelling ++ rest) = some (token, rest) := by
  cases token with
  | none => rfl
  | some naming => cases naming <;> rfl

theorem tokenAt?_append {s rest : List Char} {token : Token} (found : tokenAt? s = some (token, rest))
    (more : List Char) : tokenAt? (s ++ more) = some (token, rest ++ more) := by
  rw [tokenAt?_eq_some found, List.append_assoc, tokenAt?_spelling]

theorem slash_not_mem_spelling (token : Token) : '/' ∉ token.spelling := by
  cases token with
  | none => decide
  | some naming => cases naming <;> decide

/-! ## Renaming -/

theorem renameChars_nil (name : List Char) : renameChars name [] = [] := by
  rw [renameChars.eq_def]
  rfl

theorem renameChars_spelling (name : List Char) (token : Token) (rest : List Char) :
    renameChars name (token.spelling ++ rest) = token.value name ++ renameChars name rest := by
  rw [renameChars.eq_def]
  split
  · rename_i found
    rw [tokenAt?_spelling] at found
    cases found
    rfl
  · rename_i found
    rw [tokenAt?_spelling] at found
    cases found

theorem renameChars_cons {c : Char} {rest : List Char} (plain : tokenAt? (c :: rest) = none)
    (name : List Char) : renameChars name (c :: rest) = c :: renameChars name rest := by
  rw [renameChars.eq_def]
  split
  · rename_i found
    rw [plain] at found
    cases found
  · rfl

/-- Texts that are read token by token, and character by character between the tokens. -/
theorem tokenwise {motive : List Char → Prop} (nil : motive [])
    (token : ∀ (token : Token) rest, motive rest → motive (token.spelling ++ rest))
    (plain : ∀ c rest, tokenAt? (c :: rest) = none → motive rest → motive (c :: rest)) (s : List Char) :
    motive s := by
  induction s using renameChars.induct with
  | case1 s found rest here induction =>
      rw [tokenAt?_eq_some here]
      exact token found rest induction
  | case2 => exact nil
  | case3 c rest here induction => exact plain c rest here induction

/-- Whether no token stands anywhere in a text. -/
def IsTokenFree (s : List Char) : Prop :=
  ∀ token : Token, ¬token.spelling <:+: s

theorem isTokenFree_of_not_mem {s : List Char} (free : '{' ∉ s) : IsTokenFree s := by
  intro token inside
  exact free (inside.subset (by simp [Token.spelling]))

theorem renameChars_of_isTokenFree {s : List Char} (free : IsTokenFree s) (name : List Char) :
    renameChars name s = s := by
  induction s using tokenwise with
  | nil => exact renameChars_nil name
  | token token rest _ => exact absurd (List.prefix_append token.spelling rest).isInfix (free token)
  | plain c rest here induction =>
      have freeRest : IsTokenFree rest := fun token inside =>
        free token (inside.trans (List.suffix_cons c rest).isInfix)
      rw [renameChars_cons here, induction freeRest]

/-- A path without tokens stays as it is. -/
theorem renamePath_of_isTokenFree {path : String} (free : IsTokenFree path.toList) (name : String) :
    renamePath name path = path := by
  rw [renamePath, renameChars_of_isTokenFree free, String.ofList_toList]

/-- Renaming works on the pieces between slashes. -/
theorem splitAtChar_renameChars (free : '/' ∉ name) (path : List Char) :
    splitAtChar '/' (renameChars name path) = (splitAtChar '/' path).map (renameChars name) := by
  induction path using tokenwise with
  | nil => simp [renameChars_nil, splitAtChar]
  | token token rest induction =>
      cases pieces : splitAtChar '/' rest with
      | nil => exact absurd pieces (splitAtChar_ne_nil '/' rest)
      | cons piece others =>
          rw [pieces, List.map_cons] at induction
          rw [renameChars_spelling, splitAtChar_append (slash_not_mem_value free token) induction,
            splitAtChar_append (slash_not_mem_spelling token) pieces, List.map_cons,
            renameChars_spelling]
  | plain c rest here induction =>
      rw [renameChars_cons here]
      by_cases slash : c = '/'
      · rw [slash, splitAtChar, if_pos rfl, splitAtChar, if_pos rfl, List.map_cons, renameChars_nil,
          induction]
      · have single : '/' ∉ [c] := by simpa using Ne.symm slash
        cases pieces : splitAtChar '/' rest with
        | nil => exact absurd pieces (splitAtChar_ne_nil '/' rest)
        | cons piece others =>
            obtain ⟨behind, rfl⟩ := exists_append_of_splitAtChar pieces
            have hereAlone : tokenAt? (c :: piece) = none := by
              cases found : tokenAt? (c :: piece) with
              | none => rfl
              | some result =>
                  have longer := tokenAt?_append found behind
                  rw [List.cons_append, here] at longer
                  cases longer
            rw [pieces, List.map_cons] at induction
            have split : splitAtChar '/' (c :: (piece ++ behind)) = (c :: piece) :: others :=
              splitAtChar_append single pieces
            have renamed : splitAtChar '/' (c :: renameChars name (piece ++ behind)) =
                (c :: renameChars name piece) :: others.map (renameChars name) :=
              splitAtChar_append single induction
            rw [renamed, split, List.map_cons, renameChars_cons hereAlone]

/-! ## Segments -/

/-- Whether every token stands for something. -/
def IsTelling (name : List Char) : Prop :=
  ∀ token : Token, token.value name ≠ []

/-- Whether a text is a name of something in a directory: it is not empty, and neither the directory itself
nor the one above. -/
def IsProper (segment : Segment) : Prop :=
  segment ≠ [] ∧ isRelativeSegment segment = false

instance : DecidablePred IsProper :=
  fun _ => inferInstanceAs (Decidable (_ ∧ _))

theorem renameChars_eq_nil (telling : IsTelling name) {s : List Char} (empty : renameChars name s = []) :
    s = [] := by
  induction s using tokenwise with
  | nil => rfl
  | token token rest _ =>
      rw [renameChars_spelling] at empty
      exact absurd (List.append_eq_nil_iff.mp empty).1 (telling token)
  | plain c rest here _ =>
      rw [renameChars_cons here] at empty
      cases empty

/-- A renamed text is a point only if it was one, or a token stands for one. -/
theorem renameChars_eq_point (telling : IsTelling name)
    (noPoint : ∀ token : Token, token.value name ≠ ['.'])
    {s : List Char} (point : renameChars name s = ['.']) : s = ['.'] := by
  induction s using tokenwise with
  | nil =>
      rw [renameChars_nil] at point
      cases point
  | token token rest _ =>
      rw [renameChars_spelling] at point
      rcases List.append_eq_singleton_iff.mp point with ⟨empty, -⟩ | ⟨same, -⟩
      · exact absurd empty (telling token)
      · exact absurd same (noPoint token)
  | plain c rest here _ =>
      rw [renameChars_cons here] at point
      obtain ⟨rfl, behind⟩ := List.cons.inj point
      rw [renameChars_eq_nil telling behind]

theorem renameChars_eq_points (telling : IsTelling name)
    (noPoint : ∀ token : Token, token.value name ≠ ['.'])
    (noPoints : ∀ token : Token, token.value name ≠ ['.', '.']) {s : List Char}
    (points : renameChars name s = ['.', '.']) : s = ['.', '.'] := by
  induction s using tokenwise with
  | nil =>
      rw [renameChars_nil] at points
      cases points
  | token token rest _ =>
      rw [renameChars_spelling] at points
      cases stands : token.value name with
      | nil => exact absurd stands (telling token)
      | cons c more =>
          rw [stands, List.cons_append] at points
          obtain ⟨rfl, behind⟩ := List.cons.inj points
          cases more with
          | nil => exact absurd stands (noPoint token)
          | cons d more =>
              obtain ⟨rfl, last⟩ := List.cons.inj behind
              have ended : more = [] := (List.append_eq_nil_iff.mp last).1
              exact absurd (ended ▸ stands) (noPoints token)
  | plain c rest here _ =>
      rw [renameChars_cons here] at points
      obtain ⟨rfl, behind⟩ := List.cons.inj points
      rw [renameChars_eq_point telling noPoint behind]

/-- A proper segment stays proper when it is renamed for an accepted name whose tokens stand for
something. -/
theorem isProper_renameChars {p : Parameters} (telling : IsTelling p.name.toList) {segment : Segment}
    (proper : IsProper segment) : IsProper (renameChars p.name.toList segment) := by
  have noPoint (token : Token) : token.value p.name.toList ≠ ['.'] := by
    intro same
    have accepted := isRelativeSegment_value p token
    rw [same] at accepted
    cases accepted
  have noPoints (token : Token) : token.value p.name.toList ≠ ['.', '.'] := by
    intro same
    have accepted := isRelativeSegment_value p token
    rw [same] at accepted
    cases accepted
  obtain ⟨nonempty, notRelative⟩ := proper
  refine ⟨fun empty => nonempty (renameChars_eq_nil telling empty), ?_⟩
  cases relative : isRelativeSegment (renameChars p.name.toList segment) with
  | false => rfl
  | true =>
      rw [isRelativeSegment, Bool.or_eq_true, decide_eq_true_eq, decide_eq_true_eq] at relative
      rcases relative with point | points
      · rw [renameChars_eq_point telling noPoint point] at notRelative
        cases notRelative
      · rw [renameChars_eq_points telling noPoint noPoints points] at notRelative
        cases notRelative

/-! ## Paths -/

/-- Whether a path leads down from a directory name by name. -/
def LeadsDown (path : String) : Prop :=
  ∀ segment ∈ splitAtChar '/' path.toList, IsProper segment

theorem splitAtChar_renamePath (p : Parameters) (path : String) :
    splitAtChar '/' (renamePath p.name path).toList =
      (splitAtChar '/' path.toList).map (renameChars p.name.toList) := by
  rw [renamePath, String.toList_ofList, splitAtChar_renameChars (slash_not_mem_name p)]

theorem leadsDown_renamePath {p : Parameters} (telling : IsTelling p.name.toList) {path : String}
    (down : LeadsDown path) : LeadsDown (renamePath p.name path) := by
  intro segment known
  rw [splitAtChar_renamePath] at known
  obtain ⟨before, inside, rfl⟩ := List.mem_map.mp known
  exact isProper_renameChars telling (down before inside)

/-- Whether a path adds names to those of every directory that it is taken from. -/
structure StaysBelow (path : String) : Prop where
  /-- It does not begin at the root. -/
  relative : isAbsolute path.toList = false
  /-- A directory stays at the root, or away from it. -/
  root : ∀ directory, isAbsolute (join directory path.toList) = isAbsolute directory
  /-- The names of the path stand behind those of the directory. -/
  names : ∀ directory, segments (join directory path.toList) =
    segments directory ++ splitAtChar '/' path.toList

theorem LeadsDown.staysBelow {path : String} (down : LeadsDown path) : StaysBelow path := by
  have areNames : ∀ name ∈ splitAtChar '/' path.toList, IsName name := by
    intro name known
    obtain ⟨nonempty, notRelative⟩ := down name known
    refine ⟨nonempty, fun point => ?_, not_mem_of_mem_splitAtChar known⟩
    rw [point] at notRelative
    cases notRelative
  have relative : isAbsolute path.toList = false := by
    have built : isAbsolute ([] ++ joinWith '/' (splitAtChar '/' path.toList)) = isAbsolute [] :=
      isAbsolute_append_joinWith areNames
    rwa [List.nil_append, joinWith_splitAtChar] at built
  have whole : segments path.toList = splitAtChar '/' path.toList := filter_names areNames
  have joined (directory : List Char) :
      join directory path.toList = below directory (splitAtChar '/' path.toList) := by
    rw [join, relative, whole]
    rfl
  exact {
    relative
    root := fun directory => by rw [joined, isAbsolute_below directory areNames]
    names := fun directory => by rw [joined, segments_below directory areNames] }

theorem leadsDown_spelling (token : Token) : LeadsDown (String.ofList token.spelling) := by
  intro segment known
  rw [String.toList_ofList, splitAtChar_of_not_mem (slash_not_mem_spelling token)] at known
  rw [List.mem_singleton.mp known, Token.spelling]
  exact ⟨by simp, by simp [isRelativeSegment]⟩

/-- For an accepted name, renamed paths lead down from every directory exactly if every token stands for
something; then so do all paths of a manifest. -/
theorem leadsDown_renamePath_iff (p : Parameters) :
    ((∀ path, LeadsDown path → '\x00' ∉ path.toList →
        LeadsDown (renamePath p.name path) ∧ StaysBelow (renamePath p.name path) ∧
        (splitAtChar '/' (renamePath p.name path).toList).length =
          (splitAtChar '/' path.toList).length) ↔
      IsTelling p.name.toList) ∧
    (IsTelling p.name.toList → ∀ (m : Materializer) (root : List Char) (w : Workspace),
      (∀ names ∈ Materializer.namesUnder w.disk root, LeadsDown (String.ofList (joinWith '/' names))) →
      Ensures (m.materialize root p) w
        (fun manifest _ => ∀ path ∈ manifest.paths, LeadsDown path ∧ StaysBelow path)
        fun _ _ => True) := by
  refine ⟨⟨fun leads token nothing => ?_, fun telling path down _ => ?_⟩,
    fun telling m root w down => ?_⟩
  · have noNul : '\x00' ∉ token.spelling := by
      cases token with
      | none => decide
      | some naming => cases naming <;> decide
    have downSpelling := leadsDown_spelling token
    have renamed := (leads (String.ofList token.spelling) downSpelling (by simpa using noNul)).1
    have vanished : renameChars p.name.toList token.spelling = [] := by
      rw [← List.append_nil token.spelling, renameChars_spelling, nothing, renameChars_nil]
      rfl
    rw [LeadsDown, splitAtChar_renamePath, String.toList_ofList,
      splitAtChar_of_not_mem (slash_not_mem_spelling token), List.map_singleton, vanished] at renamed
    exact (renamed [] List.mem_cons_self).1 rfl
  · have downRenamed := leadsDown_renamePath telling down
    exact ⟨downRenamed, downRenamed.staysBelow, by rw [splitAtChar_renamePath, List.length_map]⟩
  · refine (m.materialize_paths p root w).mono (fun manifest t paths path known => ?_) fun _ _ _ => trivial
    obtain ⟨names, listed, rfl⟩ := paths path known
    have downRenamed := leadsDown_renamePath telling (down names listed)
    exact ⟨downRenamed, downRenamed.staysBelow⟩

/-- The name `a-b` is telling, so its paths lead down. -/
theorem leadsDown_renamePath_two_parts :
    ∃ p : Parameters, p.name = "a-b" ∧ ∀ path, LeadsDown path → '\x00' ∉ path.toList →
      LeadsDown (renamePath p.name path) ∧ StaysBelow (renamePath p.name path) := by
  let p : Parameters := ⟨"a-b", noPort, by decide⟩
  have telling : IsTelling p.name.toList := by
    intro token
    cases token with
    | none => decide
    | some naming => cases naming <;> decide
  refine ⟨p, rfl, fun path down noNul => ?_⟩
  obtain ⟨leads, stays, -⟩ := (leadsDown_renamePath_iff p).1.mpr telling path down noNul
  exact ⟨leads, stays⟩

/-- The name `a-` is accepted although nothing is left of it without its first part; a path that begins with
this token begins at the root when it is renamed. -/
theorem renamePath_vanishing_segment :
    ∃ (p : Parameters) (path : String), p.name = "a-" ∧ LeadsDown path ∧ '\x00' ∉ path.toList ∧
      renamePath p.name path = "/f" ∧ ¬LeadsDown (renamePath p.name path) ∧
      ∀ directory, join directory (renamePath p.name path).toList = ['/', 'f'] := by
  let written := Token.spelling (some .skipFirst) ++ ['/', 'f']
  have chars : renameChars ['a', '-'] written = ['/', 'f'] := by
    rw [renameChars_spelling, renameChars_cons rfl, renameChars_cons rfl, renameChars_nil]
    rfl
  have renamed : renamePath "a-" (String.ofList written) = "/f" := by
    rw [renamePath, String.toList_ofList, String.toList_ofList, chars]
  refine ⟨⟨"a-", noPort, by decide⟩, String.ofList written, rfl, ?_, ?_, renamed, ?_, fun directory => ?_⟩
  · intro segment known
    rw [String.toList_ofList] at known
    revert segment
    decide
  · rw [String.toList_ofList]
    decide
  · intro leads
    rw [renamed] at leads
    exact (leads [] (by decide)).1 rfl
  · rw [renamed]
    rfl

end Stencil.Project
