import Mathlib
import Stencil.Log.Journal
import Stencil.Proofs.Work

/-!
# What is attached to a journal

Asking for a logger attaches the console at most once, and neither that nor a new level touches the file.
-/

namespace Stencil.Log

namespace Journal

variable {j : Journal}

@[simp]
theorem file_rooted (j : Journal) : j.rooted.file = j.file := by
  rw [rooted]
  split
  · rfl
  · rw [file, file, List.findSome?_append]
    exact Option.or_none

@[simp]
theorem file_setVerbosity (j : Journal) (verbose : Bool) : (j.setVerbosity verbose).file = j.file :=
  j.file_rooted

/-- A record for which there is no file changes nothing on the disk. -/
theorem keeps_record_unfiled (unfiled : j.file = none) (time logger : String) (entry : Entry)
    {holds : Disk → Prop} : Keeps (j.record time logger entry) holds := by
  rw [record]
  split
  · refine fun d start => Ensures.forM (fun handler known t held => ?_) start
    cases handler with
    | console => exact .pure held
    | file file => cases List.findSome?_eq_none_iff.mp unfiled _ known
  · exact .pure ()

/-- Whether nothing is attached, or the console and behind it at most one file. -/
def IsOrderly (j : Journal) : Prop :=
  j.handlers = [] ∨ j.handlers = .console :: (j.file.map .file).toList

theorem IsOrderly.handlers_rooted (orderly : j.IsOrderly) :
    j.rooted.handlers = .console :: (j.file.map .file).toList := by
  rw [rooted]
  rcases orderly with nothing | attached
  · rw [if_neg (by simp [nothing]), nothing, file, nothing]
    rfl
  · rw [if_pos (by simp [attached, Handler.isConsole]), attached]

theorem IsOrderly.rooted (orderly : j.IsOrderly) : j.rooted.IsOrderly :=
  .inr (by rw [orderly.handlers_rooted, file_rooted])

theorem IsOrderly.setVerbosity (orderly : j.IsOrderly) (verbose : Bool) : (j.setVerbosity verbose).IsOrderly :=
  .inr (by rw [file_setVerbosity, ← orderly.handlers_rooted]; rfl)

/-- The console and a file are attached at most once each. -/
theorem IsOrderly.attached_once (orderly : j.IsOrderly) :
    j.handlers.countP Handler.isConsole ≤ 1 ∧ j.handlers.countP (·.file?.isSome) ≤ 1 := by
  rcases orderly with nothing | attached
  · simp [nothing]
  · rw [attached]
    cases j.file with
    | none => decide
    | some file => exact ⟨Nat.le_refl 1, Nat.le_refl 1⟩

end Journal

end Stencil.Log
