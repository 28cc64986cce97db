import Stencil.Project.Naming

/-!
# Renaming paths

Tokens in a path are replaced in one pass from left to right; what is put in is not looked at again.
-/

namespace Stencil.Project

/-- What follows a text at the head of another one. -/
def dropPrefix? : List Char → List Char → Option (List Char)
  | [], s => some s
  | _ :: _, [] => none
  | p :: ps, c :: s => if p = c then dropPrefix? ps s else none

theorem dropPrefix?_eq_some {head s rest : List Char} (found : dropPrefix? head s = some rest) :
    s = head ++ rest := by
  induction head generalizing s with
  | nil => simpa [dropPrefix?] using found
  | cons p ps ih =>
    cases s with
    | nil => simp [dropPrefix?] at found
    | cons c s =>
      simp only [dropPrefix?] at found
      split at found
      · rename_i same
        rw [same, ih found, List.cons_append]
      · simp at found

/-- The token at the head of a text, and what follows it. -/
def tokenAt? (s : List Char) : Option (Token × List Char) :=
  Token.all.findSome? fun token => (dropPrefix? token.spelling s).map (token, ·)

theorem tokenAt?_eq_some {s rest : List Char} {token : Token} (found : tokenAt? s = some (token, rest)) :
    s = token.spelling ++ rest := by
  obtain ⟨candidate, -, match_⟩ := List.exists_of_findSome?_eq_some found
  obtain ⟨after, dropped, same⟩ := Option.map_eq_some_iff.1 match_
  cases same
  exact dropPrefix?_eq_some dropped

theorem tokenAt?_length_lt {s rest : List Char} {token : Token} (found : tokenAt? s = some (token, rest)) :
    rest.length < s.length := by
  rw [tokenAt?_eq_some found, Token.spelling]
  simp
  omega

/-- A text with its tokens replaced for a project name. -/
def renameChars (name : List Char) (s : List Char) : List Char :=
  match _found : tokenAt? s with
  | some (token, rest) => token.value name ++ renameChars name rest
  | none =>
    match s with
    | [] => []
    | c :: rest => c :: renameChars name rest
termination_by s.length
decreasing_by
  · exact tokenAt?_length_lt _found
  · simp

/-- A path with its tokens replaced for a project name. -/
def renamePath (name path : String) : String :=
  String.ofList (renameChars name.toList path.toList)

end Stencil.Project
