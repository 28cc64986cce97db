import Mathlib
import Stencil.Proofs.Provision

/-!
# Accounts

A run follows a plan of calls.  One that succeeds made all of them, and what it reports is what the host
answered; one that fails broke off somewhere, and only the deletion of its project follows.
-/

namespace Stencil

variable {σ ε : Type}

/-- The path of the project that an order asks for. -/
def ProjectOrder.path (order : ProjectOrder) (parameters : Project.Parameters) : String :=
  order.group ++ "/" ++ parameters.name

/-- What an order says about its project; without a description that is the name. -/
def ProjectOrder.purpose (order : ProjectOrder) (parameters : Project.Parameters) : String :=
  (order.description.filter (· ≠ "")).getD parameters.name

/-- The branch that a call makes the default one. -/
def Call.shownBranch? : Call → Option String
  | .setDefaultBranch _ branch => some branch
  | _ => none

namespace Provisioner

/-- The calls behind the commit: a branch for further work, unless the committed one serves for it. -/
def branchCalls (settings : TemplateSettings) (path : String) : List Call :=
  match settings.devBranch with
  | none => []
  | some branch =>
    if branch = "" ∨ branch = settings.branch then []
    else [.createBranch path branch settings.branch, .setDefaultBranch path branch]

/-- The calls of a whole run, in order, for the manifest that it commits. -/
def plan (p : Provisioner σ ε) (order : ProjectOrder) (parameters : Project.Parameters) (manifest : Manifest) :
    List Call :=
  [.projectExists (order.path parameters),
    .createProject parameters.name order.group (order.purpose parameters),
    .copyVariables (p.templatePath order.template) (order.path parameters),
    .enableRunners (p.templatePath order.template) (order.path parameters),
    .download (p.templatePath order.template),
    .commit (order.path parameters) manifest p.settings.branch p.settings.commitMessage] ++
    branchCalls p.settings (order.path parameters)

/-- The whole archive that the host returned makes a manifest. -/
def Materialized (p : Provisioner σ ε) (order : ProjectOrder) (disk : Disk) (parameters : Project.Parameters)
    (exchanges : List (Exchange ε)) (manifest : Manifest) : Prop :=
  ∃ archive log w, ⟨.download (p.templatePath order.template), .ok archive⟩ ∈ exchanges ∧
    (p.materializer.materializeArchive archive parameters p.directory).run ⟨disk, log⟩ = (.ok manifest, w)

/-- What was sent in a commit was materialized before. -/
def Founded (p : Provisioner σ ε) (order : ProjectOrder) (disk : Disk) (parameters : Project.Parameters)
    (exchanges : List (Exchange ε)) : Prop :=
  ∀ before e path manifest branch message, before ++ [e] <+: exchanges →
    e.call = .commit path manifest branch message → Materialized p order disk parameters before manifest

/-- A run broke off: it made only some of the calls of its plan, or the last of them failed. -/
def BreaksOff (plan : List Call) (exchanges : List (Exchange ε)) : Prop :=
  exchanges.map (·.call) <+: plan ∧ (exchanges.map (·.call) ≠ plan ∨
    ∃ before call failure, exchanges = before ++ [(⟨call, .error failure⟩ : Exchange ε)])

/-- A run did all that was asked for, and reports it. -/
structure Reports (p : Provisioner σ ε) (order : ProjectOrder) (disk : Disk) (parameters : Project.Parameters)
    (manifest : Manifest) (exchanges : List (Exchange ε)) (result : Provisioned) : Prop where
  /-- The calls are those of the plan. -/
  calls : exchanges.map (·.call) = p.plan order parameters manifest
  /-- All of them were answered. -/
  answered : ∀ e ∈ exchanges, e.succeeds = true
  /-- The project was free. -/
  free : ⟨.projectExists (order.path parameters), .ok false⟩ ∈ exchanges
  /-- The committed manifest is that of the archive. -/
  materialized : Materialized p order disk parameters exchanges manifest
  /-- The number of variables is that of the host. -/
  variableCount : ⟨.copyVariables (p.templatePath order.template) (order.path parameters),
    .ok result.variableCount⟩ ∈ exchanges
  /-- The number of runners is that of the host. -/
  runnerCount : ⟨.enableRunners (p.templatePath order.template) (order.path parameters),
    .ok result.runnerCount⟩ ∈ exchanges
  /-- The number of files is that of the steps of the commit. -/
  fileCount : result.fileCount = manifest.toActions.length
  /-- The branch is the last one that was made the default, or else the committed one. -/
  defaultBranch : result.defaultBranch =
    (exchanges.filterMap (·.call.shownBranch?)).getLast?.getD p.settings.branch
  /-- The paths are those of the project and of the template. -/
  paths : result.projectPath = order.path parameters ∧ result.templatePath = p.templatePath order.template

/-- What the calls of a run tell about its outcome. -/
structure Accounts (p : Provisioner σ ε) (order : ProjectOrder) (disk : Disk)
    (exchanges : List (Exchange ε)) (outcome : Except (ProvisionFault ε) Provisioned) : Prop where
  /-- No call is made for parameters that are refused. -/
  refused : ∀ fault, Project.Parameters.ofValues order.name order.port = .error fault →
    exchanges = [] ∧ outcome = .error (.parameters fault)
  /-- A run that succeeds did all that was asked for. -/
  succeeded : ∀ parameters result, Project.Parameters.ofValues order.name order.port = .ok parameters →
    outcome = .ok result → ∃ manifest, Reports p order disk parameters manifest exchanges result
  /-- A run that fails broke off; what follows is at most the deletion of the project. -/
  failed : ∀ parameters fault, Project.Parameters.ofValues order.name order.port = .ok parameters →
    outcome = .error fault → ∃ front deletion manifest, exchanges = front ++ deletion ∧
      (∀ e ∈ front, e.deletes = false) ∧
      (deletion = [] ∨ ∃ outcome, deletion = [⟨.deleteProject (order.path parameters), outcome⟩]) ∧
      BreaksOff (p.plan order parameters manifest) front
  /-- No commit is sent unless the whole archive makes its manifest. -/
  founded : ∀ parameters, Project.Parameters.ofValues order.name order.port = .ok parameters →
    Founded p order disk parameters exchanges

/-! ## Plans -/

section Plans

variable {p : Provisioner σ ε} {order : ProjectOrder} {disk : Disk} {parameters : Project.Parameters}
  {manifest : Manifest} {front : List (Exchange ε)}

/-- The calls behind the commit are those of a run. -/
theorem branchCalls_eq (settings : TemplateSettings) (path : String) :
    branchCalls settings path = match workBranch? settings with
      | none => []
      | some branch => [.createBranch path branch settings.branch, .setDefaultBranch path branch] := by
  rw [branchCalls, workBranch?]
  cases settings.devBranch with
  | none => rfl
  | some branch =>
      by_cases serves : branch = "" ∨ branch = settings.branch
      · have unused : ¬(branch ≠ "" ∧ branch ≠ settings.branch) := by tauto
        simp [serves, Option.filter, unused]
      · have used : branch ≠ "" ∧ branch ≠ settings.branch := by tauto
        simp [Option.filter, used]

theorem not_deletes_of_planned {e : Exchange ε} (planned : e.call ∈ p.plan order parameters manifest) :
    e.deletes = false := by
  obtain ⟨call, outcome⟩ := e
  cases call with
  | deleteProject path =>
      simp only [plan, branchCalls] at planned
      split at planned
      · simp at planned
      · split at planned <;> simp at planned
  | _ => rfl

theorem founded_nil : Founded p order disk parameters [] := by
  intro before e path files branch message earlier
  simp at earlier

theorem Founded.concat (founded : Founded p order disk parameters front) {e : Exchange ε}
    (last : ∀ path manifest branch message, e.call = .commit path manifest branch message →
      Materialized p order disk parameters front manifest) :
    Founded p order disk parameters (front ++ [e]) := by
  intro before e' path files branch message earlier commits
  rcases List.prefix_concat_iff.mp earlier with same | earlier
  · obtain ⟨rfl, one⟩ := List.append_inj' same rfl
    obtain rfl := List.singleton_inj.mp one
    exact last path files branch message commits
  · exact founded before e' path files branch message earlier commits

theorem founded_made (description : String) :
    Founded p order disk parameters (made order parameters description) :=
  (founded_nil.concat (by simp)).concat (by simp)

end Plans

/-! ## Steps -/

variable {p : Provisioner σ ε} {s t : ProvisionState σ} {order : ProjectOrder} {disk : Disk}
  {parameters : Project.Parameters} {front : List (Exchange ε)}

/-- A run broke off, and it sent no commit without ground. -/
def Broken (p : Provisioner σ ε) (s : ProvisionState σ) (order : ProjectOrder) (disk : Disk)
    (parameters : Project.Parameters) (t : ProvisionState σ) : Prop :=
  ∃ front manifest, Asked p s front t ∧ BreaksOff (p.plan order parameters manifest) front ∧
    Founded p order disk parameters front

/-- The next call of a plan is answered, or the run breaks off with it. -/
theorem ensures_ask_planned {call : Call} (manifest : Manifest) (asked : Asked p s front t)
    (follows : front.map (·.call) ++ [call] <+: p.plan order parameters manifest)
    (founded : Founded p order disk parameters front)
    (ground : ∀ path files branch message, call = .commit path files branch message →
      Materialized p order disk parameters front files)
    {returns : call.Answer → ProvisionState σ → Prop}
    (answered : ∀ answer t', Asked p s (front ++ [⟨call, .ok answer⟩]) t' →
      Founded p order disk parameters (front ++ [⟨call, .ok answer⟩]) →
      t'.workspace.disk = t.workspace.disk → returns answer t') :
    Ensures (p.ask call) t returns fun _ t' => Broken p s order disk parameters t' := by
  refine ensures_ask asked call (fun answer t' asked' kept => ?_) fun failure t' asked' => ?_
  · exact answered answer t' asked' (founded.concat ground) kept
  · refine ⟨_, manifest, asked', ⟨?_, .inr ⟨front, call, failure, rfl⟩⟩, founded.concat ground⟩
    rwa [List.map_append, List.map_singleton]

/-- The exchanges of a run up to the download, all of them answered. -/
def fetched (p : Provisioner σ ε) (order : ProjectOrder) (parameters : Project.Parameters)
    (variableCount runnerCount : Nat) (archive : Bytes) : List (Exchange ε) :=
  made order parameters (order.purpose parameters) ++
    [⟨.copyVariables (p.templatePath order.template) (order.path parameters), .ok variableCount⟩] ++
    [⟨.enableRunners (p.templatePath order.template) (order.path parameters), .ok runnerCount⟩] ++
    [⟨.download (p.templatePath order.template), .ok archive⟩]

/-- The exchanges of a run up to the commit, all of them answered. -/
def served (p : Provisioner σ ε) (order : ProjectOrder) (parameters : Project.Parameters)
    (variableCount runnerCount : Nat) (archive : Bytes) (manifest : Manifest) : List (Exchange ε) :=
  fetched p order parameters variableCount runnerCount archive ++
    [⟨.commit (order.path parameters) manifest p.settings.branch p.settings.commitMessage, .ok ()⟩]

theorem reports_served {variableCount runnerCount : Nat} {archive : Bytes} {manifest : Manifest}
    {log : List Log.Entry} {w : Workspace} {rest : List (Exchange ε)}
    (materialized : (p.materializer.materializeArchive archive parameters p.directory).run ⟨disk, log⟩ =
      (.ok manifest, w))
    (calls : rest.map (·.call) = branchCalls p.settings (order.path parameters))
    (answered : ∀ e ∈ rest, e.succeeds = true) :
    Reports p order disk parameters manifest
      (served p order parameters variableCount runnerCount archive manifest ++ rest)
      ⟨order.path parameters, p.templatePath order.template, manifest.size, variableCount, runnerCount,
        (rest.filterMap (·.call.shownBranch?)).getLast?.getD p.settings.branch⟩ where
  calls := by
    rw [List.map_append, calls]
    rfl
  answered := by
    refine List.forall_mem_append.mpr ⟨?_, answered⟩
    simp [served, fetched, made, Exchange.succeeds, Except.isOk, Except.toBool]
  free := by
    apply List.mem_append_left
    simp [served, fetched, made, ProjectOrder.path]
  materialized := by
    refine ⟨archive, log, w, ?_, materialized⟩
    apply List.mem_append_left
    simp [served, fetched]
  variableCount := by
    apply List.mem_append_left
    simp [served, fetched]
  runnerCount := by
    apply List.mem_append_left
    simp [served, fetched]
  fileCount := by
    simp [Manifest.size, Manifest.toActions, Manifest.files]
  defaultBranch := by
    have unshown : (served p order parameters variableCount runnerCount archive manifest).filterMap
        (·.call.shownBranch?) = [] := rfl
    rw [List.filterMap_append, unshown, List.nil_append]
  paths := ⟨rfl, rfl⟩

/-- Behind the commit a run makes the branch for further work, if there is to be one. -/
theorem ensures_branches {variableCount runnerCount : Nat} {archive : Bytes} {manifest : Manifest}
    {log : List Log.Entry} {w : Workspace}
    (asked : Asked p s (served p order parameters variableCount runnerCount archive manifest) t)
    (founded : Founded p order disk parameters
      (served p order parameters variableCount runnerCount archive manifest))
    (materialized : (p.materializer.materializeArchive archive parameters p.directory).run ⟨disk, log⟩ =
      (.ok manifest, w)) :
    Ensures (match workBranch? p.settings with
      | none => pure ⟨order.path parameters, p.templatePath order.template, manifest.size, variableCount,
          runnerCount, p.settings.branch⟩
      | some branch => do
        p.ask (.createBranch (order.path parameters) branch p.settings.branch)
        p.ask (.setDefaultBranch (order.path parameters) branch)
        return ⟨order.path parameters, p.templatePath order.template, manifest.size, variableCount, runnerCount,
          branch⟩) t
      (fun result t' => ∃ manifest exchanges, Asked p s exchanges t' ∧
        Reports p order disk parameters manifest exchanges result ∧ Founded p order disk parameters exchanges)
      fun _ t' => Broken p s order disk parameters t' := by
  have calls := branchCalls_eq p.settings (order.path parameters)
  cases work : workBranch? p.settings with
  | none =>
      rw [work] at calls
      refine .pure ⟨manifest, _, asked, ?_, founded⟩
      rw [← List.append_nil (served _ _ _ _ _ _ _)]
      exact reports_served materialized calls.symm (by simp)
  | some branch =>
      rw [work] at calls
      have whole : p.plan order parameters manifest =
          (served p order parameters variableCount runnerCount archive manifest).map Exchange.call ++
            [.createBranch (order.path parameters) branch p.settings.branch,
              .setDefaultBranch (order.path parameters) branch] := by
        rw [plan, calls]
        rfl
      refine .bind (ensures_ask_planned manifest asked (by rw [whole]; exact ⟨_, rfl⟩) founded (by simp)
        fun _ t₁ asked₁ founded₁ _ => ?_)
      refine .bind (ensures_ask_planned manifest asked₁ (by rw [whole]; exact ⟨[], by simp⟩) founded₁ (by simp)
        fun _ t₂ asked₂ founded₂ _ => .pure ?_)
      rw [List.append_assoc] at asked₂ founded₂
      refine ⟨manifest, _, asked₂, reports_served materialized calls.symm ?_, founded₂⟩
      exact forall_mem_concat (List.forall_mem_singleton.mpr rfl) rfl

/-- Filling a project does all that is left of the plan, or the run breaks off. -/
theorem ensures_populate_planned
    (asked : Asked p s (made order parameters (order.purpose parameters)) t) :
    Ensures (p.populate (p.templatePath order.template) (order.path parameters) parameters) t
      (fun result t' => ∃ manifest exchanges, Asked p s exchanges t' ∧
        Reports p order t.workspace.disk parameters manifest exchanges result ∧
        Founded p order t.workspace.disk parameters exchanges)
      fun _ t' => Broken p s order t.workspace.disk parameters t' := by
  have founded : Founded p order t.workspace.disk parameters
      (made order parameters (order.purpose parameters)) := founded_made _
  -- The calls before the commit are the same for all manifests.
  refine .bind (ensures_ask_planned ⟨[]⟩ asked ⟨_, rfl⟩ founded (by simp)
    fun variableCount t₁ asked₁ founded₁ kept₁ => ?_)
  refine .bind (ensures_ask_planned ⟨[]⟩ asked₁ ⟨_, rfl⟩ founded₁ (by simp)
    fun runnerCount t₂ asked₂ founded₂ kept₂ => ?_)
  refine .bind (ensures_ask_planned ⟨[]⟩ asked₂ ⟨_, rfl⟩ founded₂ (by simp)
    fun archive t₃ asked₃ founded₃ kept₃ => ?_)
  refine .bind (ensures_report asked₃ _ _ fun t₄ asked₄ kept₄ => ?_)
  have disk : t₄.workspace.disk = t.workspace.disk := by rw [kept₄, kept₃, kept₂, kept₁]
  rw [← disk] at founded₃ ⊢
  refine .bind (ensures_work asked₄ (fun manifest w t₅ ran asked₅ => ?_) fun fault w t₅ ran asked₅ => ?_)
  · refine .bind (ensures_ask_planned manifest asked₅ ⟨_, rfl⟩ founded₃ ?_ fun _ t₆ asked₆ founded₆ _ => ?_)
    · rintro path files branch message ⟨⟩
      exact ⟨archive, t₄.workspace.log, w, by simp, ran⟩
    · exact ensures_branches asked₆ founded₆ ran
  · refine ⟨_, ⟨[]⟩, asked₅, ⟨⟨_, rfl⟩, .inl fun same => ?_⟩, founded₃⟩
    have short := congrArg List.length same
    simp [made, plan] at short

/-! ## Runs -/

theorem accounts_of_refused {fault : Project.ParameterFault}
    (refused : Project.Parameters.ofValues order.name order.port = .error fault) :
    Accounts p order disk [] (.error (.parameters fault)) where
  refused fault' refused' := by
    rw [refused] at refused'
    cases refused'
    exact ⟨rfl, rfl⟩
  succeeded parameters result accepted := by
    rw [refused] at accepted
    cases accepted
  failed parameters fault' accepted := by
    rw [refused] at accepted
    cases accepted
  founded parameters accepted := by
    rw [refused] at accepted
    cases accepted

section Outcomes

variable (accepted : Project.Parameters.ofValues order.name order.port = .ok parameters)

include accepted

theorem accounts_of_reports {manifest : Manifest} {result : Provisioned}
    (reports : Reports p order disk parameters manifest front result)
    (founded : Founded p order disk parameters front) : Accounts p order disk front (.ok result) where
  refused fault refused := by
    rw [accepted] at refused
    cases refused
  succeeded parameters' result' accepted' same := by
    rw [accepted] at accepted'
    cases accepted'
    cases same
    exact ⟨manifest, reports⟩
  failed parameters' fault _ same := by cases same
  founded parameters' accepted' := by
    rw [accepted] at accepted'
    cases accepted'
    exact founded

theorem accounts_of_breaksOff {manifest : Manifest} {fault : ProvisionFault ε} {deletion : List (Exchange ε)}
    (breaksOff : BreaksOff (p.plan order parameters manifest) front)
    (founded : Founded p order disk parameters front)
    (deletes : deletion = [] ∨ ∃ outcome, deletion = [⟨.deleteProject (order.path parameters), outcome⟩]) :
    Accounts p order disk (front ++ deletion) (.error fault) where
  refused fault refused := by
    rw [accepted] at refused
    cases refused
  succeeded parameters' result _ same := by cases same
  failed parameters' fault' accepted' same := by
    rw [accepted] at accepted'
    cases accepted'
    refine ⟨front, deletion, manifest, rfl, fun e known => ?_, deletes, breaksOff⟩
    exact not_deletes_of_planned (breaksOff.1.subset (List.mem_map_of_mem known))
  founded parameters' accepted' := by
    rw [accepted] at accepted'
    cases accepted'
    rcases deletes with rfl | ⟨outcome, rfl⟩
    · rwa [List.append_nil]
    · exact founded.concat (by simp)

theorem Broken.accounts (broken : Broken p s order disk parameters t) (fault : ProvisionFault ε) :
    ∃ exchanges, Asked p s exchanges t ∧ Accounts p order disk exchanges (.error fault) := by
  obtain ⟨front, manifest, asked, breaksOff, founded⟩ := broken
  refine ⟨front ++ [], ?_, accounts_of_breaksOff accepted breaksOff founded (.inl rfl)⟩
  rwa [List.append_nil]

/-- A run that broke off accounts for what it did once its project is deleted. -/
theorem ensures_delete (broken : Broken p s order disk parameters t) (message : String)
    (fault : ProvisionFault ε) {returns : Provisioned → ProvisionState σ → Prop} :
    Ensures (do
        report .error message
        p.compensate (order.path parameters)
        throw fault) t returns fun fault t' =>
      ∃ exchanges, Asked p s exchanges t' ∧ Accounts p order disk exchanges (.error fault) := by
  obtain ⟨front, manifest, asked, breaksOff, founded⟩ := broken
  have deleted : ∀ fault t', (∃ outcome, Asked p s
      (front ++ [⟨.deleteProject (order.path parameters), outcome⟩]) t') →
      ∃ exchanges, Asked p s exchanges t' ∧ Accounts p order disk exchanges (.error fault) := by
    rintro fault t' ⟨outcome, asked'⟩
    exact ⟨_, asked', accounts_of_breaksOff accepted breaksOff founded (.inr ⟨outcome, rfl⟩)⟩
  refine .bind (ensures_report asked _ _ fun t₁ asked₁ _ => .bind ?_)
  refine (ensures_compensate asked₁ (order.path parameters)).mono (fun _ t₂ asked₂ => ?_) ?_
  · exact .throw (deleted fault t₂ asked₂)
  · rintro fault' t₂ ⟨-, asked₂⟩
    exact deleted fault' t₂ asked₂

/-- A run with accepted parameters accounts for what it did. -/
theorem ensures_fill (start : Asked p s [] s) :
    Ensures (p.fill order parameters) s
      (fun result t => ∃ exchanges, Asked p s exchanges t ∧
        Accounts p order s.workspace.disk exchanges (.ok result))
      fun fault t => ∃ exchanges, Asked p s exchanges t ∧
        Accounts p order s.workspace.disk exchanges (.error fault) := by
  have broken : ∀ fault t', Broken p s order s.workspace.disk parameters t' →
      ∃ exchanges, Asked p s exchanges t' ∧ Accounts p order s.workspace.disk exchanges (.error fault) :=
    fun fault t' broken => broken.accounts accepted fault
  refine .bind ((ensures_ask_planned ⟨[]⟩ start ⟨_, rfl⟩ founded_nil (by simp)
    fun isTaken t₁ asked₁ founded₁ kept₁ => ?_).mono (fun _ _ held => held) broken)
  cases isTaken with
  | true => exact .throw (broken _ t₁ ⟨_, ⟨[]⟩, asked₁, ⟨⟨_, rfl⟩, .inl (by simp [plan])⟩, founded₁⟩)
  | false =>
      refine .bind ((ensures_ask_planned ⟨[]⟩ asked₁ ⟨_, rfl⟩ founded₁ (by simp)
        fun _ t₂ asked₂ founded₂ kept₂ => ?_).mono (fun _ _ held => held) broken)
      rw [← kept₁, ← kept₂]
      refine .tryCatch ((ensures_populate_planned asked₂).mono ?_ ?_)
      · rintro result t₃ ⟨manifest, exchanges, asked₃, reports, founded₃⟩
        exact ⟨exchanges, asked₃, accounts_of_reports accepted reports founded₃⟩
      · rintro fault t₃ unfilled
        split
        · exact .throw (unfilled.accounts accepted fault)
        · exact ensures_delete accepted unfilled _ fault

end Outcomes

/-- Whatever the host answers and wherever it fails, the calls of a run and its outcome account for each other:
a run that succeeds made all calls of its plan and reports what came of them, and one that fails broke off. -/
theorem provision_accounts (p : Provisioner σ ε) (order : ProjectOrder) (s : ProvisionState σ) :
    ∃ exchanges, Asked p s exchanges ((p.provision order).run s).2 ∧
      Accounts p order s.workspace.disk exchanges ((p.provision order).run s).1 := by
  have start : Asked p s [] s := ⟨.nil, by simp⟩
  suffices ensures : Ensures (p.provision order) s
      (fun result t => ∃ exchanges, Asked p s exchanges t ∧
        Accounts p order s.workspace.disk exchanges (.ok result))
      (fun fault t => ∃ exchanges, Asked p s exchanges t ∧
        Accounts p order s.workspace.disk exchanges (.error fault)) by
    obtain ⟨result, t, ran, accounts⟩ | ⟨fault, t, ran, accounts⟩ := ensures.outcome
    · rwa [ran]
    · rwa [ran]
  rw [provision]
  split
  · rename_i fault refused
    exact .throw ⟨[], start, accounts_of_refused refused⟩
  · rename_i parameters accepted
    exact ensures_fill accepted start

end Provisioner

end Stencil
