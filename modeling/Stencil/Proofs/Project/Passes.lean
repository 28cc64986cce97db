import Mathlib
import Stencil.Proofs.Project.Renaming

/-!
# Renaming in one pass

No token overlaps another one, since two braces open it and none stands behind them.  So renaming takes a path apart
at each of its tokens and at each slash: what stands on one side of them changes nothing on the other side, and what
is put in is not looked at again.
-/

namespace Stencil.Project

open Disk

variable {name : List Char}

/-! ## Tokens at a seam -/

/-- Whether no token that begins before a text reaches into it. -/
def IsApart (behind : List Char) : Prop :=
  ∀ (token : Token) (before rest : List Char), before ≠ [] → rest ≠ [] → token.spelling = before ++ rest →
    ¬rest <+: behind

theorem exists_spelling_eq (token : Token) :
    ∃ rest, token.spelling = '{' :: '{' :: rest ∧ rest ≠ [] ∧ '{' ∉ rest := by
  cases token with
  | none => exact ⟨_, rfl, by decide, by decide⟩
  | some naming => cases naming <;> exact ⟨_, rfl, by decide, by decide⟩

theorem isApart_spelling (token : Token) (rest : List Char) : IsApart (token.spelling ++ rest) := by
  intro token' before behind some some' spelled reaches
  obtain ⟨tail, opens, -, -⟩ := exists_spelling_eq token
  obtain ⟨tail', opens', more, single⟩ := exists_spelling_eq token'
  rw [opens'] at spelled
  rw [opens, List.cons_append, List.cons_append] at reaches
  obtain ⟨c, behind, rfl⟩ := List.exists_cons_of_ne_nil some'
  obtain ⟨rfl, inside⟩ := List.cons_prefix_cons.mp reaches
  -- What reaches over begins with a brace: it is all but the first brace, or it lies behind both.
  rcases before with _ | ⟨d, _ | ⟨e, before⟩⟩
  · exact some rfl
  · obtain rfl : tail' = behind := (List.cons.inj (List.cons.inj spelled).2).2
    obtain ⟨d, tail', rfl⟩ := List.exists_cons_of_ne_nil more
    exact single (by simp [(List.cons_prefix_cons.mp inside).1])
  · obtain rfl : tail' = before ++ '{' :: behind := (List.cons.inj (List.cons.inj spelled).2).2
    exact single (by simp)

theorem isApart_slash (rest : List Char) : IsApart ('/' :: rest) := by
  intro token before behind _ some spelled reaches
  obtain ⟨c, behind, rfl⟩ := List.exists_cons_of_ne_nil some
  obtain ⟨rfl, -⟩ := List.cons_prefix_cons.mp reaches
  exact slash_not_mem_spelling token (by simp [spelled])

theorem tokenAt?_append_eq_none {c : Char} {s behind : List Char} (apart : IsApart behind)
    (plain : tokenAt? (c :: s) = none) : tokenAt? (c :: (s ++ behind)) = none := by
  cases found : tokenAt? (c :: (s ++ behind)) with
  | none => rfl
  | some result =>
      obtain ⟨token, rest⟩ := result
      have same : (c :: s) ++ behind = token.spelling ++ rest := tokenAt?_eq_some found
      rcases List.append_eq_append_iff.mp same with ⟨beyond, spelled, reaches⟩ | ⟨beyond, inside, -⟩
      · cases beyond with
        | nil =>
            rw [List.append_nil] at spelled
            have whole := tokenAt?_spelling token []
            rw [List.append_nil, spelled, plain] at whole
            cases whole
        | cons d beyond =>
            exact absurd ⟨rest, reaches.symm⟩ (apart token (c :: s) (d :: beyond) (by simp) (by simp) spelled)
      · rw [inside, tokenAt?_spelling] at plain
        cases plain

/-! ## Renaming in parts -/

/-- Parts of a text are renamed for themselves where no token reaches from one into the other. -/
theorem renameChars_append {behind : List Char} (apart : IsApart behind) (name s : List Char) :
    renameChars name (s ++ behind) = renameChars name s ++ renameChars name behind := by
  induction s using tokenwise with
  | nil => rw [renameChars_nil, List.nil_append, List.nil_append]
  | token token rest induction =>
      rw [List.append_assoc, renameChars_spelling, induction, renameChars_spelling, List.append_assoc]
  | plain c rest here induction =>
      rw [List.cons_append, renameChars_cons (tokenAt?_append_eq_none apart here), induction,
        renameChars_cons here, List.cons_append]

theorem renameChars_append_spelling (name s : List Char) (token : Token) (rest : List Char) :
    renameChars name (s ++ (token.spelling ++ rest)) =
      renameChars name s ++ (token.value name ++ renameChars name rest) := by
  rw [renameChars_append (isApart_spelling token rest), renameChars_spelling]

theorem tokenAt?_slash (rest : List Char) : tokenAt? ('/' :: rest) = none := by
  cases found : tokenAt? ('/' :: rest) with
  | none => rfl
  | some result =>
      obtain ⟨tail, opens, -, -⟩ := exists_spelling_eq result.1
      have same : '/' :: rest = result.1.spelling ++ result.2 := tokenAt?_eq_some found
      rw [opens] at same
      cases same

theorem renameChars_append_slash (name s rest : List Char) :
    renameChars name (s ++ '/' :: rest) = renameChars name s ++ '/' :: renameChars name rest := by
  rw [renameChars_append (isApart_slash rest), renameChars_cons (tokenAt?_slash rest)]

/-- Segments are renamed one by one, also where a name holds slashes. -/
theorem renameChars_joinWith (name : List Char) (pieces : List (List Char)) :
    renameChars name (joinWith '/' pieces) = joinWith '/' (pieces.map (renameChars name)) := by
  induction pieces with
  | nil => exact renameChars_nil name
  | cons piece pieces induction =>
      cases pieces with
      | nil => rfl
      | cons next pieces =>
          rw [joinWith, renameChars_append_slash, induction]
          · rfl
          · exact List.cons_ne_nil next pieces

/-! ## Tokens and the texts between them -/

/-- A text of tokens, each with what stands before it, and of what stands behind the last one; for each token
something is put in. -/
def interleave (put : Token → List Char) (last : List Char) : List (List Char × Token) → List Char
  | [] => last
  | (before, token) :: rest => before ++ (put token ++ interleave put last rest)

theorem renameChars_interleave {last : List Char} {pieces : List (List Char × Token)}
    (free : ∀ piece ∈ pieces, IsTokenFree piece.1) (freeLast : IsTokenFree last) (name : List Char) :
    renameChars name (interleave Token.spelling last pieces) = interleave (Token.value name) last pieces := by
  induction pieces with
  | nil => exact renameChars_of_isTokenFree freeLast name
  | cons piece pieces induction =>
      obtain ⟨first, others⟩ := List.forall_mem_cons.mp free
      rw [interleave, renameChars_append_spelling, renameChars_of_isTokenFree first, induction others, interleave]

theorem isTokenFree_cons {c : Char} {s : List Char} (plain : tokenAt? (c :: s) = none) (free : IsTokenFree s) :
    IsTokenFree (c :: s) := by
  intro token inside
  rcases List.infix_cons_iff.mp inside with ⟨rest, here⟩ | later
  · rw [← here, tokenAt?_spelling] at plain
    cases plain
  · exact free token later

theorem tokenAt?_eq_none_of_append {s behind : List Char} (plain : tokenAt? (s ++ behind) = none) :
    tokenAt? s = none := by
  cases found : tokenAt? s with
  | none => rfl
  | some result =>
      rw [tokenAt?_append found] at plain
      cases plain

/-- Every text is one of tokens and of texts without tokens. -/
theorem exists_interleave (s : List Char) :
    ∃ pieces last, (∀ piece ∈ pieces, IsTokenFree piece.1) ∧ IsTokenFree last ∧
      interleave Token.spelling last pieces = s := by
  have empty : IsTokenFree [] := isTokenFree_of_not_mem List.not_mem_nil
  induction s using tokenwise with
  | nil => exact ⟨[], [], List.forall_mem_nil _, empty, rfl⟩
  | token token rest induction =>
      obtain ⟨pieces, last, free, freeLast, rfl⟩ := induction
      exact ⟨([], token) :: pieces, last, List.forall_mem_cons.mpr ⟨empty, free⟩, freeLast, rfl⟩
  | plain c rest here induction =>
      obtain ⟨pieces, last, free, freeLast, rfl⟩ := induction
      cases pieces with
      | nil => exact ⟨[], c :: last, free, isTokenFree_cons here freeLast, rfl⟩
      | cons piece pieces =>
          obtain ⟨first, others⟩ := List.forall_mem_cons.mp free
          have begins : tokenAt? (c :: piece.1) = none := tokenAt?_eq_none_of_append (s := c :: piece.1) here
          exact ⟨(c :: piece.1, piece.2) :: pieces, last,
            List.forall_mem_cons.mpr ⟨isTokenFree_cons begins first, others⟩, freeLast, rfl⟩

/-- Renaming takes a path apart at every token and at every slash, so that its segments are renamed one by one; it puts
in what the tokens stand for, and leaves what holds no token as it is.  A path is tokens and texts without tokens
between them, and just these tokens are replaced. -/
theorem renamePath_onePass (name : String) :
    (∀ (before behind : String) (token : Token),
      renamePath name (before ++ String.ofList token.spelling ++ behind) =
        renamePath name before ++ String.ofList (token.value name.toList) ++ renamePath name behind) ∧
    (∀ before behind : String,
      renamePath name (before ++ "/" ++ behind) = renamePath name before ++ "/" ++ renamePath name behind) ∧
    (∀ path : String, (renamePath name path).toList =
      joinWith '/' ((splitAtChar '/' path.toList).map (renameChars name.toList))) ∧
    (∀ path : String, IsTokenFree path.toList → renamePath name path = path) ∧
    ∀ path : String, ∃ pieces last, (∀ piece ∈ pieces, IsTokenFree piece.1) ∧ IsTokenFree last ∧
      path = String.ofList (interleave Token.spelling last pieces) ∧
      renamePath name path = String.ofList (interleave (Token.value name.toList) last pieces) := by
  refine ⟨fun before behind token => ?_, fun before behind => ?_, fun path => ?_, fun path free => ?_, fun path => ?_⟩
  · have split := renameChars_append_spelling name.toList before.toList token behind.toList
    simp [renamePath, split, String.ofList_append, String.append_assoc]
  · have split := renameChars_append_slash name.toList before.toList behind.toList
    simp [renamePath, split, String.ofList_append, String.append_assoc]
  · rw [renamePath, String.toList_ofList, ← renameChars_joinWith, joinWith_splitAtChar]
  · exact renamePath_of_isTokenFree free name
  · obtain ⟨pieces, last, free, freeLast, same⟩ := exists_interleave path.toList
    refine ⟨pieces, last, free, freeLast, by rw [same, String.ofList_toList], ?_⟩
    rw [renamePath, ← same, renameChars_interleave free freeLast]

/-- Braces around a token stay, and a name that is spelled as a token is put in as it is. -/
theorem renamePath_onePass_braces :
    IsTokenFree "\x7b".toList ∧ IsTokenFree "\x7d/\x7bName\x7d\x7d".toList ∧
      renamePath "\x7b\x7bName_ToCamelCase\x7d\x7d" "\x7b\x7b\x7bName\x7d\x7d\x7d/\x7bName\x7d\x7d" =
        "\x7b\x7b\x7bName_ToCamelCase\x7d\x7d\x7d/\x7bName\x7d\x7d" := by
  have before : IsTokenFree "\x7b".toList := by
    intro token inside
    have short := inside.length_le
    obtain ⟨rest, opens, -⟩ := exists_spelling_eq token
    rw [opens] at short
    simp at short
  have behind : IsTokenFree "\x7d/\x7bName\x7d\x7d".toList := by
    intro token inside
    obtain ⟨rest, opens, -⟩ := exists_spelling_eq token
    have twice := inside.sublist.count_le '\x7b'
    rw [opens] at twice
    revert twice
    simp
  obtain ⟨split, -, -, unchanged, -⟩ := renamePath_onePass "\x7b\x7bName_ToCamelCase\x7d\x7d"
  have renamed := split "\x7b" "\x7d/\x7bName\x7d\x7d" none
  rw [unchanged _ before, unchanged _ behind] at renamed
  exact ⟨before, behind, renamed⟩

end Stencil.Project
