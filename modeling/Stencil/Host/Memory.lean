import Stencil.Host

/-!
# Hosts in memory

A host that knows which projects there are and answers all other calls as it was told.  It fails in the
calls that it was told to fail in.
-/

namespace Stencil

open Data (Value)

/-- How a host in memory behaves. -/
structure MemoryHost (ε : Type) where
  /-- The archive of every project. -/
  archive : Bytes := []
  /-- How many variables are copied. -/
  variableCount : Nat := 0
  /-- How many runners are enabled. -/
  runnerCount : Nat := 0
  /-- The projects of every group, with their descriptions. -/
  templates : List (Value × Value) := []
  /-- The failure of a call, if it fails. -/
  failure? : Call → Option ε := fun _ => none

namespace MemoryHost

variable {ε : Type}

/-- The answer to a call that does not fail. -/
def answer (host : MemoryHost ε) (projects : List String) : (call : Call) → call.Answer
  | .listProjects _ => host.templates
  | .projectExists project => projects.contains project
  | .download _ => host.archive
  | .createProject _ _ _ => ()
  | .copyVariables _ _ => host.variableCount
  | .enableRunners _ _ => host.runnerCount
  | .commit _ _ _ _ => ()
  | .createBranch _ _ _ => ()
  | .setDefaultBranch _ _ => ()
  | .deleteProject _ => ()

/-- The projects after a call that does not fail. -/
def after (projects : List String) : Call → List String
  | .createProject name group _ =>
    let path := group ++ "/" ++ name
    if projects.contains path then projects else projects ++ [path]
  | .deleteProject project => projects.filter (· ≠ project)
  | _ => projects

/-- The host, whose state are the paths of its projects. -/
def toHost (host : MemoryHost ε) (describe : ε → String) (interrupts : ε → Bool) :
    Host (List String) ε where
  ask call projects :=
    match host.failure? call with
    | some failure => ({ outcome := .error failure }, projects)
    | none => ({ outcome := .ok (host.answer projects call) }, after projects call)
  describe
  interrupts

end MemoryHost

end Stencil
