import Mathlib
import Stencil.Proofs.Disk.Path
import Stencil.Proofs.Gitlab.Downloads
import Stencil.Proofs.Text.Percent

/-!
# Addresses of projects

A project stands in the path of a request as one segment, from which it can be read back.  So the requests of two
calls go to the same path only for the same project, and no project makes a path of other segments.
-/

namespace Stencil.Gitlab

open Data (Value)
open Disk (splitAtChar splitAtChar_append)
open Http (Method Request)
open Text.Percent (IsSegment isUnreserved)

/-- What of a project requests are sent to. -/
structure Resource where
  /-- The project. -/
  project : String
  /-- What of it, as the end of a path. -/
  part : String
deriving DecidableEq, Repr

/-- The path of a resource. -/
def Resource.path (resource : Resource) : String :=
  Client.projectPath resource.project ++ resource.part

/-- What requests are sent to in a call about projects; there is nothing for the calls about groups. -/
def resources : Call → List Resource
  | .projectExists project => [⟨project, ""⟩]
  | .download project => [⟨project, "/repository/archive.tar.gz"⟩]
  | .copyVariables source target => [⟨source, "/variables"⟩, ⟨target, "/variables"⟩]
  | .enableRunners source target => [⟨source, "/runners"⟩, ⟨target, "/runners"⟩]
  | .commit project _ _ _ => [⟨project, "/repository/commits"⟩]
  | .createBranch project _ _ => [⟨project, "/repository/branches"⟩]
  | .setDefaultBranch project _ => [⟨project, ""⟩]
  | .deleteProject project => [⟨project, ""⟩]
  | .listProjects _ => []
  | .createProject _ _ _ => []

namespace Client

variable {σ α : Type}

/-! ## Requests that are sent -/

/-- Whether a session has sent some requests and then only such of which something holds. -/
def HasAdded (earlier : List Request) (allowed : Request → Prop) (session : Session σ) : Prop :=
  ∃ sent, session.requests = earlier ++ sent ∧ ∀ request ∈ sent, allowed request

section Sending

variable {earlier : List Request} {allowed : Request → Prop}

theorem keeps_of_state {part : Exchange σ α} {holds : Session σ → Prop}
    (keeps : ∀ session, holds session → holds (part.run session).2) : Keeps part holds := by
  intro session start
  have after := keeps session start
  unfold Ensures
  split
  · rename_i ran
    rwa [ran] at after
  · rename_i ran
    rwa [ran] at after

theorem HasAdded.append {session : Session σ} (added : HasAdded earlier allowed session) {requests : List Request}
    (fine : ∀ request ∈ requests, allowed request) {after : Session σ}
    (same : after.requests = session.requests ++ requests) : HasAdded earlier allowed after := by
  obtain ⟨sent, before, held⟩ := added
  exact ⟨sent ++ requests, by rw [same, before, List.append_assoc], List.forall_mem_append.mpr ⟨held, fine⟩⟩

theorem keeps_report (level : Log.Level) (message : String) :
    Keeps (report level message : Exchange σ Unit) (HasAdded earlier allowed) :=
  fun _ start => .modify start

theorem keeps_item (v : Value) (name : String) :
    Keeps (item v name : Exchange σ Value) (HasAdded earlier allowed) := by
  unfold item
  split
  · split
    · exact .pure _
    · exact .throw _
  · exact .throw _

theorem keeps_field (v : Value) (name : String) :
    Keeps (field v name : Exchange σ (Option Value)) (HasAdded earlier allowed) := by
  unfold field
  split
  · exact .pure _
  · exact .throw _

theorem keeps_orRefusal {part : Exchange σ α} (keeps : Keeps part (HasAdded earlier allowed)) :
    Keeps (orRefusal part) (HasAdded earlier allowed) := by
  refine .tryCatch (keeps.bind fun a => .pure _) fun fault => ?_
  split
  · exact .pure _
  · exact .throw _

variable {client : Client σ}

theorem keeps_send {method : Method} {path : String} {parameters : Option (List (String × Value))}
    {body : Option Value} (fine : allowed (client.request method path parameters body)) :
    Keeps (client.send method path parameters body) (HasAdded earlier allowed) := by
  refine keeps_of_state fun session start => ?_
  rw [run_send]
  exact start.append (List.forall_mem_singleton.mpr fine) rfl

theorem keeps_submit {method : Method} {path : String} {fields : List (String × Value)}
    (fine : ∀ body, allowed (client.request method path none body)) :
    Keeps (client.submit method path fields) (HasAdded earlier allowed) :=
  (keeps_send (fine _)).bind fun _ => .pure _

theorem keeps_list {path : String} {parameters : List (String × Value)}
    (fine : ∀ parameters, allowed (client.request .get path parameters none)) :
    Keeps (client.list path parameters) (HasAdded earlier allowed) := by
  rw [list]
  generalize client.mostPages = most
  generalize "1" = number
  induction most generalizing number with
  | zero => exact .throw _
  | succ most induction =>
      rw [listFrom]
      refine (keeps_send (fine _)).bind fun response => ?_
      refine Keeps.bind ?_ fun v => ?_
      · unfold readData
        split
        · exact .pure _
        · exact .throw _
      · simp only
        split
        · exact .pure _
        · exact (induction _).bind fun _ => .pure _

theorem keeps_countTaken {take : Value → Exchange σ Bool} (keeps : ∀ v, Keeps (take v) (HasAdded earlier allowed))
    (items : List Value) : Keeps (countTaken take items) (HasAdded earlier allowed) := by
  induction items with
  | nil => exact .pure _
  | cons v rest induction => exact (keeps v).bind fun _ => induction.bind fun _ => .pure _

theorem keeps_copyVariable {target : String} (v : Value)
    (fine : ∀ body, allowed (client.request .post (projectPath target ++ "/variables") none body)) :
    Keeps (client.copyVariable target v) (HasAdded earlier allowed) := by
  refine (keeps_item _ _).bind fun key => (keeps_orRefusal (keeps_submit fine)).bind fun outcome => ?_
  split
  · exact (keeps_report _ _).bind fun _ => .pure _
  · exact (keeps_report _ _).bind fun _ => .pure _

theorem keeps_enableRunner {target : String} (v : Value)
    (fine : ∀ body, allowed (client.request .post (projectPath target ++ "/runners") none body)) :
    Keeps (client.enableRunner target v) (HasAdded earlier allowed) := by
  refine (keeps_field _ _).bind fun shared => ?_
  split
  · exact .pure _
  · refine (keeps_item _ _).bind fun number => (keeps_orRefusal (keeps_submit fine)).bind fun outcome => ?_
    split
    · exact (keeps_report _ _).bind fun _ => .pure _
    · exact (keeps_report _ _).bind fun _ => .pure _

/-- A download sends the request for the archive and nothing else, whatever its policy. -/
theorem keeps_downloadArchive {project : String} (fine : allowed (client.archiveRequest project)) :
    Keeps (client.downloadArchive project) (HasAdded earlier allowed) := by
  refine keeps_of_state fun session start => ?_
  have begin' : session.network = client.networkAfter (client.archiveRequest project) session.network 0 ∧
      session.requests = session.requests ++ List.replicate 0 (client.archiveRequest project) :=
    ⟨rfl, by simp⟩
  have sent : ∃ count, ((client.downloadArchive project).run session).2.requests =
      session.requests ++ List.replicate count (client.archiveRequest project) := by
    obtain ⟨k, -, ⟨-, t, waits, ran, -, -, sent⟩ | ⟨i, -, -, t, waits, ran, -, sent⟩⟩ :=
      (client.foretold_download project session).run_eq client.download "download" begin'
    · exact ⟨_, (run_downloadArchive ran).2.trans sent⟩
    · exact ⟨_, (run_downloadArchive ran).2.trans sent⟩
  obtain ⟨count, sent⟩ := sent
  exact start.append (fun request known => List.eq_of_mem_replicate known ▸ fine) sent

/-- Requests of a call about projects go to its resources. -/
theorem keeps_exchange (client : Client σ) {call : Call} (some : resources call ≠ []) (earlier : List Request) :
    Keeps (client.exchange call) (HasAdded earlier fun request =>
      ∃ resource ∈ resources call, request.address = client.address ++ resource.path) := by
  have bare (project : String) : projectPath project = (Resource.mk project "").path := by simp [Resource.path]
  cases call with
  | listProjects group => exact absurd rfl some
  | createProject name group description => exact absurd rfl some
  | projectExists project =>
      refine (keeps_orRefusal (keeps_send ⟨_, List.mem_cons_self, by rw [← bare]; rfl⟩)).bind fun outcome => ?_
      split
      · exact .pure _
      · split
        · exact .pure _
        · exact .throw _
  | download project => exact keeps_downloadArchive ⟨_, List.mem_cons_self, rfl⟩
  | copyVariables source target =>
      refine (keeps_list fun _ => ⟨_, List.mem_cons_self, rfl⟩).bind fun found => ?_
      have each : Keeps (countTaken (client.copyVariable target) found) (HasAdded earlier fun request =>
          ∃ resource ∈ resources (.copyVariables source target),
            request.address = client.address ++ resource.path) :=
        keeps_countTaken (fun v => keeps_copyVariable v fun body =>
          ⟨_, List.mem_cons_of_mem _ List.mem_cons_self, rfl⟩) found
      simp only
      split
      · exact (keeps_report _ _).bind fun _ => each
      · exact each
  | enableRunners source target =>
      refine (keeps_list fun _ => ⟨_, List.mem_cons_self, rfl⟩).bind fun runners => ?_
      exact keeps_countTaken (fun v => keeps_enableRunner v fun body =>
        ⟨_, List.mem_cons_of_mem _ List.mem_cons_self, rfl⟩) runners
  | commit project files branch message =>
      exact (keeps_submit fun body => ⟨_, List.mem_cons_self, rfl⟩).bind fun _ => keeps_report _ _
  | createBranch project branch origin =>
      exact (keeps_send ⟨_, List.mem_cons_self, rfl⟩).bind fun _ => .pure _
  | setDefaultBranch project branch =>
      exact keeps_submit fun body => ⟨_, List.mem_cons_self, by rw [← bare]; rfl⟩
  | deleteProject project =>
      exact (keeps_send ⟨_, List.mem_cons_self, by rw [← bare]; rfl⟩).bind fun _ => keeps_report _ _

end Sending

/-! ## Segments -/

theorem isSegment_projectSegment (project : String) : IsSegment (projectSegment project).toList := by
  rw [projectSegment, String.toList_ofList]
  exact Text.Percent.isSegment_encode _

/-- A project is read back from its segment. -/
theorem decode_projectSegment (project : String) :
    Text.Percent.decode (projectSegment project).toList = .ok project.toList := by
  rw [projectSegment, String.toList_ofList]
  exact Text.Percent.decode_encode _

theorem projectSegment_injective : Function.Injective projectSegment := by
  intro project project' same
  have read := decode_projectSegment project
  rw [same, decode_projectSegment] at read
  exact (String.toList_injective (Except.ok.inj read)).symm

theorem not_mem_projectSegment {c : Char} (reserved : isUnreserved c = false) (other : c ≠ '%')
    (project : String) : c ∉ (projectSegment project).toList := by
  intro known
  have unreserved := (isSegment_projectSegment project).isUnreserved_of_mem known other
  rw [reserved] at unreserved
  cases unreserved

end Client

namespace Resource

variable {call call' : Call} {resource resource' : Resource}

theorem toList_path (resource : Resource) :
    resource.path.toList = '/' :: ("projects".toList ++
      '/' :: ((Client.projectSegment resource.project).toList ++ resource.part.toList)) := by
  simp [path, Client.projectPath]

/-- What is asked of a project stands in segments of its own. -/
theorem splitAtChar_part (known : resource ∈ resources call) :
    splitAtChar '/' resource.part.toList = [] :: (splitAtChar '/' resource.part.toList).tail ∧
      '?' ∉ resource.part.toList ∧ '#' ∉ resource.part.toList := by
  have parts : ∀ resource ∈ resources call, resource.part ∈
      ["", "/repository/archive.tar.gz", "/variables", "/runners", "/repository/commits", "/repository/branches"] := by
    cases call <;> simp [resources]
  have apart : ∀ part ∈ ["", "/repository/archive.tar.gz", "/variables", "/runners", "/repository/commits",
      "/repository/branches"], splitAtChar '/' part.toList = [] :: (splitAtChar '/' part.toList).tail ∧
        '?' ∉ part.toList ∧ '#' ∉ part.toList := by
    decide
  exact apart _ (parts resource known)

/-- The project is the third segment of the path of a resource, whatever it is. -/
theorem splitAtChar_path (known : resource ∈ resources call) :
    splitAtChar '/' resource.path.toList =
      [] :: "projects".toList :: (Client.projectSegment resource.project).toList ::
        (splitAtChar '/' resource.part.toList).tail := by
  have free := Client.not_mem_projectSegment (c := '/') rfl (by decide) resource.project
  have inner := splitAtChar_append free (splitAtChar_part known).1
  rw [List.append_nil] at inner
  have names : splitAtChar '/' ("projects".toList ++
      '/' :: ((Client.projectSegment resource.project).toList ++ resource.part.toList)) =
      ("projects".toList ++ []) :: _ :=
    splitAtChar_append (by decide) (by rw [splitAtChar, if_pos rfl, inner])
  rw [List.append_nil] at names
  rw [toList_path, splitAtChar, if_pos rfl, names]

theorem not_mem_path {c : Char} (reserved : isUnreserved c = false) (other : c ≠ '%')
    (slash : c ≠ '/') (name : c ∉ "projects".toList) (part : c ∉ resource.part.toList) :
    c ∉ resource.path.toList := by
  have segment := Client.not_mem_projectSegment reserved other resource.project
  rw [toList_path]
  simp only [List.mem_cons, List.mem_append, not_or]
  exact ⟨slash, name, slash, segment, part⟩

/-- Resources of the same path are the same. -/
theorem eq_of_path (known : resource ∈ resources call) (known' : resource' ∈ resources call')
    (same : resource.path = resource'.path) : resource = resource' := by
  have segments := splitAtChar_path known
  rw [same, splitAtChar_path known'] at segments
  simp only [List.cons.injEq, true_and] at segments
  have project := Client.projectSegment_injective (String.toList_injective segments.1)
  rw [path, path, project] at same
  have part := (String.append_right_inj _).mp same
  cases resource
  cases resource'
  cases project
  cases part
  rfl

end Resource

/-- Projects have addresses of their own: a project is written with plain characters and escapes only, and is read back
from what is written; every request of a call about projects goes to a resource of one of them, whose path has the
project as its third segment, whatever it is, and no query behind it; and resources of the same path are the same. -/
theorem addresses_unambiguous {σ : Type} (client : Client σ) :
    (∀ project, IsSegment (Client.projectSegment project).toList ∧
      Text.Percent.decode (Client.projectSegment project).toList = .ok project.toList) ∧
    (∀ call (session : Session σ), resources call ≠ [] → ∃ sent,
      ((client.exchange call).run session).2.requests = session.requests ++ sent ∧
        ∀ request ∈ sent, ∃ resource ∈ resources call, request.address = client.address ++ resource.path) ∧
    (∀ call, ∀ resource ∈ resources call,
      splitAtChar '/' resource.path.toList =
          [] :: "projects".toList :: (Client.projectSegment resource.project).toList ::
            (splitAtChar '/' resource.part.toList).tail ∧
        '?' ∉ resource.path.toList ∧ '#' ∉ resource.path.toList) ∧
    ∀ call call', ∀ resource ∈ resources call, ∀ resource' ∈ resources call',
      resource.path = resource'.path → resource = resource' := by
  refine ⟨fun project => ⟨Client.isSegment_projectSegment project, Client.decode_projectSegment project⟩, ?_, ?_, ?_⟩
  · intro call session some
    exact (client.keeps_exchange some session.requests).state ⟨[], by simp, by simp⟩
  · intro call resource known
    obtain ⟨-, noQuery, noFragment⟩ := Resource.splitAtChar_part known
    exact ⟨Resource.splitAtChar_path known, Resource.not_mem_path rfl (by decide) (by decide) (by decide) noQuery,
      Resource.not_mem_path rfl (by decide) (by decide) (by decide) noFragment⟩
  · exact fun call call' resource known resource' known' => Resource.eq_of_path known known'

/-- A project with a slash, a letter of two bytes and a question mark stays one segment. -/
theorem addresses_unambiguous_delimiters :
    ∃ (client : Client Unit) (session : Session Unit) (sent : List Request),
      resources (.deleteProject "g/ü?") ≠ [] ∧
      ((client.exchange (.deleteProject "g/ü?")).run session).2.requests = session.requests ++ sent ∧
      (∀ request ∈ sent, ∃ resource ∈ resources (.deleteProject "g/ü?"),
        request.address = client.address ++ resource.path) ∧
      (Resource.mk "g/ü?" "").path = "/projects/g%2F%C3%BC%3F" ∧
      ⟨"g/ü?", ""⟩ ∈ resources (.deleteProject "g/ü?") ∧
      splitAtChar '/' (Resource.mk "g/ü?" "").path.toList = [[], "projects".toList, "g%2F%C3%BC%3F".toList] ∧
      ∀ project, (Resource.mk project "").path = "/projects/g%2F%C3%BC%3F" → project = "g/ü?" := by
  let client : Client Unit := { token := "t", address := "/api/v4", transport := fun _ _ => (.ok {}, ()) }
  let session : Session Unit := { network := () }
  have deleted : Resource.mk "g/ü?" "" ∈ resources (.deleteProject "g/ü?") := List.mem_cons_self
  have segment : Client.projectSegment "g/ü?" = "g%2F%C3%BC%3F" := by cbv
  have path : (Resource.mk "g/ü?" "").path = "/projects/g%2F%C3%BC%3F" := by cbv
  obtain ⟨-, addressed, segments, unique⟩ := addresses_unambiguous client
  obtain ⟨sent, requests, held⟩ := addressed (.deleteProject "g/ü?") session (List.cons_ne_nil _ _)
  have split := (segments _ _ deleted).1
  rw [segment] at split
  refine ⟨client, session, sent, List.cons_ne_nil _ _, requests, held, path, deleted, split, fun project same => ?_⟩
  have looked : Resource.mk project "" ∈ resources (.projectExists project) := List.mem_cons_self
  exact congrArg Resource.project (unique _ _ _ looked _ deleted (same.trans path.symm))

end Stencil.Gitlab
