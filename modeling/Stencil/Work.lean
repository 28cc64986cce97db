import Stencil.Disk.Operations
import Stencil.Log

/-!
# Work

What is done to a disk and reported while it is done.  Work that fails keeps what it did to the disk and
what it reported up to then.
-/

namespace Stencil

/-- A disk that is worked on, and what was reported. -/
structure Workspace where
  /-- The disk. -/
  disk : Disk := {}
  /-- The records made so far, in order. -/
  log : List Log.Entry := []

/-- Work that may fail. -/
abbrev Work (ε : Type) := ExceptT ε (StateM Workspace)

namespace Work

variable {ε : Type}

/-- Makes a record. -/
def report (level : Log.Level) (message : String) : Work ε Unit :=
  modify fun w => { w with log := w.log ++ [⟨level, message⟩] }

/-- The disk as it is. -/
def disk : Work ε Disk := do
  return (← get).disk

/-- Does something to the disk; a stopped operation is a failure of the work. -/
def change {α : Type} (failure : Disk.Fault → ε) (operation : Disk.Change α) : Work ε α := do
  let w ← get
  let (outcome, disk) := operation.run w.disk
  set { w with disk }
  match outcome with
  | .ok a => pure a
  | .error fault => throw (failure fault)

/-- Does work whose failures are part of greater work. -/
def within {δ α : Type} (failure : δ → ε) (part : Work δ α) : Work ε α := do
  let (outcome, w) := part.run (← get)
  set w
  match outcome with
  | .ok a => pure a
  | .error fault => throw (failure fault)

end Work

end Stencil
