import Stencil.Data.Value
import Stencil.Log
import Stencil.Manifest

/-!
# Hosts of repositories

What provisioning needs from a host of projects: ten calls, each with answers of its own kind.  Projects
are named by their full path, the group first.
-/

namespace Stencil

open Data (Value)

/-- A call of a host. -/
inductive Call
  /-- The projects directly in a group. -/
  | listProjects (group : String)
  /-- Whether there is a project. -/
  | projectExists (project : String)
  /-- The compressed archive of a project. -/
  | download (project : String)
  /-- A new project in a group. -/
  | createProject (name group description : String)
  /-- The variables of a project given to another one. -/
  | copyVariables (source target : String)
  /-- The runners of a project given to another one. -/
  | enableRunners (source target : String)
  /-- A commit of new files on a branch. -/
  | commit (project : String) (files : Manifest) (branch message : String)
  /-- A new branch that begins at another one. -/
  | createBranch (project branch origin : String)
  /-- The branch that a project shows. -/
  | setDefaultBranch (project branch : String)
  /-- The end of a project. -/
  | deleteProject (project : String)
deriving DecidableEq, Repr

/-- What a call is answered with: lists and truth values, bytes, numbers of things done, or nothing. -/
abbrev Call.Answer : Call → Type
  | .listProjects _ => List (Value × Value)
  | .projectExists _ => Bool
  | .download _ => Bytes
  | .createProject _ _ _ => Unit
  | .copyVariables _ _ => Nat
  | .enableRunners _ _ => Nat
  | .commit _ _ _ _ => Unit
  | .createBranch _ _ _ => Unit
  | .setDefaultBranch _ _ => Unit
  | .deleteProject _ => Unit

/-- What comes back from a call: an answer or a failure, and what was reported meanwhile. -/
structure Reply (ε : Type) (call : Call) where
  /-- The answer or the failure. -/
  outcome : Except ε call.Answer
  /-- The records made meanwhile. -/
  log : List Log.Entry := []

/-- A host, which keeps a state between its calls. -/
structure Host (σ ε : Type) where
  /-- Makes a call. -/
  ask : (call : Call) → σ → Reply ε call × σ
  /-- The wording of a failure. -/
  describe : ε → String
  /-- Whether a failure is a wish to stop at once. -/
  interrupts : ε → Bool

end Stencil
