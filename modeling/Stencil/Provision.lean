import Stencil.Host
import Stencil.Materialize

/-!
# Provisioning

A new project on a host is filled from a template project.  Once the project exists every failure deletes
it again, and the failure that is reported is the first one.  Only a wish to stop at once leaves the project
as it is.
-/

namespace Stencil

/-- What is asked for; the name and the port are not looked at yet. -/
structure ProjectOrder where
  /-- The name of the template. -/
  template : String
  /-- The name of the new project. -/
  name : Data.Value
  /-- The group of the new project. -/
  group : String
  /-- The port that the new project listens on. -/
  port : Data.Value := .int Project.noPort
  /-- What the new project is for. -/
  description : Option String := none

/-- The outcome of a successful run. -/
structure Provisioned where
  /-- The path of the new project. -/
  projectPath : String
  /-- The path of the template. -/
  templatePath : String
  /-- How many files were committed. -/
  fileCount : Nat
  /-- How many variables were copied. -/
  variableCount : Nat
  /-- How many runners were enabled. -/
  runnerCount : Nat
  /-- The branch that the project shows. -/
  defaultBranch : String
deriving DecidableEq, Repr

/-- Why a run fails. -/
inductive ProvisionFault (ε : Type)
  /-- The name or the port is refused. -/
  | parameters (fault : Project.ParameterFault)
  /-- There is a project of this path. -/
  | projectExists (path : String)
  /-- A call of the host fails. -/
  | host (failure : ε)
  /-- The template cannot be materialized. -/
  | materialize (fault : MaterializeFault)

/-- The wording of a failure, with a wording for those of the host. -/
def ProvisionFault.message {ε : Type} (describe : ε → String) : ProvisionFault ε → String
  | parameters fault => fault.message
  | projectExists path => path ++ " already exists, please use a different project name."
  | host failure => describe failure
  | materialize fault => fault.message

/-- What provisioning works with: a host, what was called so far, and a workspace. -/
structure ProvisionState (σ : Type) where
  /-- The state of the host. -/
  host : σ
  /-- The calls made, in order. -/
  calls : List Call := []
  /-- The disk on which templates are unpacked, and the records made. -/
  workspace : Workspace := {}

/-- What is done with a host and may fail. -/
abbrev Provisioning (σ ε : Type) := ExceptT (ProvisionFault ε) (StateM (ProvisionState σ))

/-- What fills new projects from templates. -/
structure Provisioner (σ ε : Type) where
  /-- The host of the templates and of the new projects. -/
  host : Host σ ε
  /-- How templates are found and committed. -/
  settings : TemplateSettings := {}
  /-- What turns templates into manifests. -/
  materializer : Materializer := { settings }
  /-- The directory where templates are unpacked. -/
  directory : List Char

namespace Provisioner

variable {σ ε : Type}

/-- Makes a record. -/
def report (level : Log.Level) (message : String) : Provisioning σ ε Unit :=
  modify fun state =>
    { state with workspace := { state.workspace with log := state.workspace.log ++ [⟨level, message⟩] } }

/-- Makes a call of the host. -/
def ask (p : Provisioner σ ε) (call : Call) : Provisioning σ ε call.Answer := do
  let state ← get
  let (reply, host) := p.host.ask call state.host
  let workspace := { state.workspace with log := state.workspace.log ++ reply.log }
  set (⟨host, state.calls ++ [call], workspace⟩ : ProvisionState σ)
  match reply.outcome with
  | .ok answer => return answer
  | .error failure => throw (.host failure)

/-- Does a part of the run that needs no host. -/
def work {α : Type} (part : Work MaterializeFault α) : Provisioning σ ε α := do
  let state ← get
  let (outcome, workspace) := part.run state.workspace
  set { state with workspace }
  match outcome with
  | .ok a => return a
  | .error fault => throw (.materialize fault)

/-- The path of a template. -/
def templatePath (p : Provisioner σ ε) (template : String) : String :=
  p.settings.group ++ "/" ++ template

/-- The templates with their descriptions. -/
def listTemplates (p : Provisioner σ ε) : Provisioning σ ε (List (Data.Value × Data.Value)) :=
  p.ask (.listProjects p.settings.group)

/-- The record that announces the work on a template. -/
def announcement (source : String) (parameters : Project.Parameters) : String :=
  "Rendering " ++ source ++ " for " ++ parameters.name ++
    if parameters.hasPort then " on port " ++ Data.intText parameters.port else " without a port"

/-- The branch that work starts on, when it is another one than that of the first commit. -/
def workBranch? (settings : TemplateSettings) : Option String :=
  settings.devBranch.filter fun branch => branch ≠ "" ∧ branch ≠ settings.branch

/-- Fills a project that was just created. -/
def populate (p : Provisioner σ ε) (source path : String) (parameters : Project.Parameters) :
    Provisioning σ ε Provisioned := do
  let variableCount ← p.ask (.copyVariables source path)
  let runnerCount ← p.ask (.enableRunners source path)
  let archive ← p.ask (.download source)
  report .info (announcement source parameters)
  let manifest ← work (p.materializer.materializeArchive archive parameters p.directory)
  p.ask (.commit path manifest p.settings.branch p.settings.commitMessage)
  let result : Provisioned := ⟨path, source, manifest.size, variableCount, runnerCount, p.settings.branch⟩
  match workBranch? p.settings with
  | none => return result
  | some branch =>
    p.ask (.createBranch path branch p.settings.branch)
    p.ask (.setDefaultBranch path branch)
    return { result with defaultBranch := branch }

/-- Whether a failure is a wish to stop at once. -/
def interrupts (p : Provisioner σ ε) : ProvisionFault ε → Bool
  | .host failure => p.host.interrupts failure
  | _ => false

/-- Deletes a project that could not be filled; that this fails too is only reported. -/
def compensate (p : Provisioner σ ε) (path : String) : Provisioning σ ε Unit := do
  let deletion : Provisioning σ ε (Option ε) :=
    tryCatch (do p.ask (.deleteProject path); return none) fun fault =>
      match fault with
      | .host failure => if p.host.interrupts failure then throw fault else return some failure
      | fault => throw fault
  match ← deletion with
  | none => report .info ("Project " ++ path ++ " deleted")
  | some failure => report .error ("Could not delete " ++ path ++ ": " ++ p.host.describe failure)

/-- What a run with accepted parameters does. -/
def fill (p : Provisioner σ ε) (order : ProjectOrder) (parameters : Project.Parameters) :
    Provisioning σ ε Provisioned := do
  let path := order.group ++ "/" ++ parameters.name
  let isTaken : Bool ← p.ask (.projectExists path)
  if isTaken then throw (.projectExists path)
  else
    let description := (order.description.filter (· ≠ "")).getD parameters.name
    p.ask (.createProject parameters.name order.group description)
    tryCatch (p.populate (p.templatePath order.template) path parameters) fun fault => do
      if p.interrupts fault then throw fault
      else
        report .error ("Provisioning " ++ path ++ " failed, deleting the project")
        p.compensate path
        throw fault

/-- Creates a project and fills it from a template. -/
def provision (p : Provisioner σ ε) (order : ProjectOrder) : Provisioning σ ε Provisioned :=
  match Project.Parameters.ofValues order.name order.port with
  | .error fault => throw (.parameters fault)
  | .ok parameters => p.fill order parameters

end Provisioner

end Stencil
