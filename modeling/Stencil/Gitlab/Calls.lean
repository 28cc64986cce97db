import Stencil.Gitlab.Client
import Stencil.Host

/-!
# A GitLab host

Each call of a host as requests: groups are found by searching for their last name, variables and runners
are handed over one by one and a refused one is passed over, and downloads are tried again.
-/

namespace Stencil.Gitlab.Client

open Data (Value)
open Http (Response)

variable {σ : Type}

/-- A project as one segment of a path. -/
def projectSegment (project : String) : String :=
  String.ofList (Text.Percent.encode project.toList)

/-- The path of a project. -/
def projectPath (project : String) : String :=
  "/projects/" ++ projectSegment project

/-- The last name in the path of a group. -/
def lastName (group : String) : String :=
  String.ofList (group.toList.reverse.takeWhile (· ≠ '/')).reverse

/-- The number of a group among candidates: that of the first with its full path. -/
def findGroup (group : String) : List Value → Exchange σ Value
  | [] => throw (.refused ("group " ++ group ++ " not found") none)
  | candidate :: rest => do
    match ← field candidate "full_path" with
    | some (.text path) => if path = group then item candidate "id" else findGroup group rest
    | _ => findGroup group rest

/-- The number of a group. -/
def groupNumber (client : Client σ) (group : String) : Exchange σ Value := do
  findGroup group (← client.list "/groups" [("search", .text (lastName group))])

/-- The names of projects with their descriptions; a name that comes again keeps its place. -/
def gatherProjects (known : List (Value × Value)) : List Value → Exchange σ (List (Value × Value))
  | [] => return known
  | project :: rest => do
    let name ← item project "name"
    let description := ((← field project "description").filter (·.isGiven)).getD (.text "")
    if name.isKey then gatherProjects (Value.insertEntry name description known) rest
    else throw (.noName name)

/-- The projects directly in a group. -/
def listProjects (client : Client σ) (group : String) : Exchange σ (List (Value × Value)) := do
  let number ← client.groupNumber group
  let projects ← client.list ("/groups/" ++ number.display ++ "/projects") [("include_subgroups", .text "false")]
  gatherProjects [] projects

/-- The status of a resource that there is not. -/
def absent : Int := 404

/-- Whether there is a project. -/
def projectExists (client : Client σ) (project : String) : Exchange σ Bool := do
  match ← orRefusal (client.call .get (projectPath project)) with
  | .ok _ => return true
  | .error fault => if fault.status? = some absent then return false else throw fault

/-- The compressed archive of a project. -/
def downloadArchive (client : Client σ) (project : String) : Exchange σ Bytes := do
  let response ← ExceptT.mk (client.download.run "download"
    (client.call .get (projectPath project ++ "/repository/archive.tar.gz")).run)
  report .debug ("Downloaded " ++ Data.decimal response.body.length ++ " bytes of " ++ project)
  return response.body

/-- A new private project in a group. -/
def createProject (client : Client σ) (name group description : String) : Exchange σ Unit := do
  let number ← client.groupNumber group
  client.submit .post "/projects"
    [("name", .text name), ("path", .text name), ("description", .text description), ("namespace_id", number),
      ("visibility", .text "private")]
  report .info ("Created project " ++ group ++ "/" ++ name)

/-- The fields of a variable as they are sent to another project. -/
def variableFields (key : Value) (v : Value) : List (String × Value) :=
  let kind := ((v.get? "variable_type").filter (·.isGiven)).toList.map fun kind => ("variable_type", kind)
  [("key", key), ("value", (v.get? "value").getD (.text "")),
    ("protected", (v.get? "protected").getD (.bool false)), ("masked", (v.get? "masked").getD (.bool false)),
    ("environment_scope", (v.get? "environment_scope").getD (.text "*"))] ++ kind

/-- Gives one variable to a project, and says whether the host took it. -/
def copyVariable (client : Client σ) (target : String) (v : Value) : Exchange σ Bool := do
  let key ← item v "key"
  match ← orRefusal (client.submit .post (projectPath target ++ "/variables") (variableFields key v)) with
  | .ok _ =>
    report .info ("Variable " ++ key.display ++ " copied to " ++ target)
    return true
  | .error fault =>
    report .warning ("Failed to copy variable " ++ key.display ++ " to " ++ target ++ ": " ++ fault.message)
    return false

/-- Does something with each value, and counts how often it was taken. -/
def countTaken (take : Value → Exchange σ Bool) : List Value → Exchange σ Nat
  | [] => return 0
  | v :: rest => do
    let taken ← take v
    let others ← countTaken take rest
    return (if taken then 1 else 0) + others

/-- Gives the variables of a project to another one, and counts those that the host took. -/
def copyVariables (client : Client σ) (source target : String) : Exchange σ Nat := do
  let found ← client.list (projectPath source ++ "/variables") []
  if found.isEmpty then
    report .info ("No variables found in source project " ++ source)
  countTaken (client.copyVariable target) found

/-- Gives one runner to a project unless all projects have it, and says whether the host took it. -/
def enableRunner (client : Client σ) (target : String) (runner : Value) : Exchange σ Bool := do
  if ((← field runner "is_shared").filter (·.isGiven)).isSome then return false
  else
    let number ← item runner "id"
    match ← orRefusal (client.submit .post (projectPath target ++ "/runners") [("runner_id", number)]) with
    | .ok _ =>
      report .info ("Runner " ++ number.display ++ " enabled for " ++ target)
      return true
    | .error fault =>
      report .warning ("Failed to enable runner " ++ number.display ++ " for " ++ target ++ ": " ++ fault.message)
      return false

/-- Gives the runners of a project to another one, and counts those that the host took. -/
def enableRunners (client : Client σ) (source target : String) : Exchange σ Nat := do
  countTaken (client.enableRunner target) (← client.list (projectPath source ++ "/runners") [])

/-- A commit of new files on a branch. -/
def commit (client : Client σ) (project : String) (files : Manifest) (branch message : String) :
    Exchange σ Unit := do
  client.submit .post (projectPath project ++ "/repository/commits")
    [("branch", .text branch), ("commit_message", .text message),
      ("actions", files.toValue)]
  report .info ("Committed " ++ Data.decimal files.size ++ " files to " ++ project ++ "@" ++ branch)

/-- A new branch that begins at another one. -/
def createBranch (client : Client σ) (project branch origin : String) : Exchange σ Unit := do
  let _ ← client.send .post (projectPath project ++ "/repository/branches")
    (some [("branch", .text branch), ("ref", .text origin)]) none

/-- The branch that a project shows. -/
def setDefaultBranch (client : Client σ) (project branch : String) : Exchange σ Unit :=
  client.submit .put (projectPath project) [("default_branch", .text branch)]

/-- The end of a project. -/
def deleteProject (client : Client σ) (project : String) : Exchange σ Unit := do
  let _ ← client.call .delete (projectPath project)
  report .info ("Deleted project " ++ project)

/-- A call of a host as requests. -/
def exchange (client : Client σ) : (call : Call) → Exchange σ call.Answer
  | .listProjects group => client.listProjects group
  | .projectExists project => client.projectExists project
  | .download project => client.downloadArchive project
  | .createProject name group description => client.createProject name group description
  | .copyVariables source target => client.copyVariables source target
  | .enableRunners source target => client.enableRunners source target
  | .commit project files branch message => client.commit project files branch message
  | .createBranch project branch origin => client.createBranch project branch origin
  | .setDefaultBranch project branch => client.setDefaultBranch project branch
  | .deleteProject project => client.deleteProject project

/-- Makes a call in a session, whose records become those of the reply. -/
def ask (client : Client σ) (call : Call) (session : Session σ) : Reply Fault call × Session σ :=
  let (outcome, after) := (client.exchange call).run { session with log := [] }
  (⟨outcome, after.log⟩, { after with log := [] })

/-- The host that a client talks to. -/
def host (client : Client σ) : Host (Session σ) Fault where
  ask := client.ask
  describe := Fault.message
  interrupts := Fault.interrupts

end Stencil.Gitlab.Client
