import Stencil.Host.Memory
import Stencil.Provision
import Stencil.Proofs.Work

/-!
# Compensation

A run that fails behind the creation of its project deletes this project, with the last call that it makes,
and reports what stopped it.  A run that is stopped earlier deletes nothing.
-/

namespace Stencil

variable {σ ε : Type}

/-! ## Exchanges -/

/-- A call with what came of it. -/
structure Exchange (ε : Type) where
  /-- The call. -/
  call : Call
  /-- The answer or the failure. -/
  outcome : Except ε call.Answer

namespace Exchange

/-- Whether a call was answered. -/
def succeeds (e : Exchange ε) : Bool :=
  e.outcome.isOk

/-- Whether a project was made. -/
def creates : Exchange ε → Bool
  | ⟨.createProject _ _ _, .ok _⟩ => true
  | _ => false

/-- Whether the deletion of a project was asked for, whatever came of it. -/
def deletes : Exchange ε → Bool
  | ⟨.deleteProject _, _⟩ => true
  | _ => false

/-- Whether a call is one that fills a project. -/
def fills (e : Exchange ε) : Bool :=
  match e.call with
  | .copyVariables _ _ | .enableRunners _ _ | .download _ | .commit _ _ _ _ | .createBranch _ _ _
  | .setDefaultBranch _ _ => true
  | _ => false

/-- Whether a project turned out not to be free, or not to be made. -/
def forbids : Exchange ε → Bool
  | ⟨.projectExists _, .ok isTaken⟩ => isTaken
  | ⟨.projectExists _, .error _⟩ => true
  | ⟨.createProject _ _ _, .error _⟩ => true
  | _ => false

theorem fills_inert {e : Exchange ε} (fills : e.fills = true) :
    e.creates = false ∧ e.deletes = false ∧ e.forbids = false := by
  obtain ⟨call, outcome⟩ := e
  cases call with
  | listProjects | projectExists | createProject | deleteProject => cases fills
  | _ => exact ⟨rfl, rfl, rfl⟩

/-- Where only the last exchange has a property, every exchange with the property is this one. -/
theorem eq_of_split {property : Exchange ε → Bool} {front before after : List (Exchange ε)}
    {last e : Exchange ε} (others : ∀ e ∈ front, property e = false)
    (split : front ++ [last] = before ++ e :: after) (holds : property e = true) :
    before = front ∧ e = last ∧ after = [] := by
  rcases List.append_eq_append_iff.mp split with ⟨more, rfl, same⟩ | ⟨more, rfl, same⟩
  · cases more with
    | nil =>
        obtain ⟨rfl, rfl⟩ := List.cons.inj same
        exact ⟨by simp, rfl, rfl⟩
    | cons first more =>
        have short := congrArg List.length same
        simp at short
  · cases more with
    | nil =>
        obtain ⟨rfl, rfl⟩ := List.cons.inj same
        exact ⟨by simp, rfl, rfl⟩
    | cons first more =>
        obtain ⟨rfl, -⟩ := List.cons.inj same
        have other := others e (by simp)
        rw [holds] at other
        cases other

end Exchange

/-- A host goes from one state to another while it is asked some calls, and this comes of them. -/
inductive Host.Talks (host : Host σ ε) (s : σ) : List (Exchange ε) → σ → Prop
  /-- Nothing was asked. -/
  | nil : host.Talks s [] s
  /-- One more call was asked. -/
  | ask {exchanges : List (Exchange ε)} {t : σ} (before : host.Talks s exchanges t) (call : Call) :
    host.Talks s (exchanges ++ [⟨call, (host.ask call t).1.outcome⟩]) (host.ask call t).2

namespace Provisioner

/-- The exchanges of a run so far: they follow the calls that were made before it. -/
structure Asked (p : Provisioner σ ε) (s : ProvisionState σ) (exchanges : List (Exchange ε))
    (t : ProvisionState σ) : Prop where
  /-- The host went on from where it was. -/
  talks : p.host.Talks s.host exchanges t.host
  /-- The calls are remembered. -/
  calls : t.calls = s.calls ++ exchanges.map (·.call)

/-- What stopped a run: the last call failed, or the template could not be materialized although all calls
were answered. -/
inductive Stopped (p : Provisioner σ ε) (disk : Disk) (parameters : Project.Parameters) :
    List (Exchange ε) → ProvisionFault ε → Prop
  /-- A call failed. -/
  | host {before : List (Exchange ε)} (call : Call) (failure : ε)
    (answered : ∀ e ∈ before, e.succeeds = true) :
    Stopped p disk parameters (before ++ [⟨call, .error failure⟩]) (.host failure)
  /-- The archive of the template was of no use. -/
  | materialize {before : List (Exchange ε)} {source : String} {archive : Bytes} {log : List Log.Entry}
    {fault : MaterializeFault} {w : Workspace} (answered : ∀ e ∈ before, e.succeeds = true)
    (fails : (p.materializer.materializeArchive archive parameters p.directory).run ⟨disk, log⟩ =
      (.error fault, w)) :
    Stopped p disk parameters (before ++ [⟨.download source, .ok archive⟩]) (.materialize fault)

/-- What a run does about its project. -/
structure Compensates (p : Provisioner σ ε) (order : ProjectOrder) (disk : Disk)
    (exchanges : List (Exchange ε)) (outcome : Except (ProvisionFault ε) Provisioned) : Prop where
  /-- A deletion is asked for exactly if the project was made and the run fails. -/
  deletes_iff : (∃ e ∈ exchanges, e.deletes = true) ↔
    (∃ e ∈ exchanges, e.creates = true) ∧ ∃ fault, outcome = .error fault
  /-- It is the deletion of the project of the run, there is only one, and it is the last call; the run
  reports what stopped it before the deletion, whatever comes of that. -/
  deletion : ∀ before e after, exchanges = before ++ e :: after → e.deletes = true →
    after = [] ∧ (∀ earlier ∈ before, earlier.deletes = false) ∧
      ∃ parameters fault, Project.Parameters.ofValues order.name order.port = .ok parameters ∧
        e.call = .deleteProject (order.group ++ "/" ++ parameters.name) ∧
        ⟨.projectExists (order.group ++ "/" ++ parameters.name), .ok false⟩ ∈ before ∧
        outcome = .error fault ∧ Stopped p disk parameters before fault
  /-- No call follows one that shows that the project is not the run's. -/
  forbidden : ∀ before e after, exchanges = before ++ e :: after → e.forbids = true →
    after = [] ∧ ∃ fault, outcome = .error fault
  /-- No call is made for parameters that are refused. -/
  refused : ∀ fault, Project.Parameters.ofValues order.name order.port = .error fault →
    exchanges = [] ∧ outcome = .error (.parameters fault)

/-! ## Steps -/

variable {p : Provisioner σ ε} {s t : ProvisionState σ} {exchanges : List (Exchange ε)}

theorem ensures_ask (asked : Asked p s exchanges t) (call : Call)
    {returns : call.Answer → ProvisionState σ → Prop} {fails : ProvisionFault ε → ProvisionState σ → Prop}
    (answered : ∀ answer t', Asked p s (exchanges ++ [⟨call, .ok answer⟩]) t' →
      t'.workspace.disk = t.workspace.disk → returns answer t')
    (failed : ∀ failure t', Asked p s (exchanges ++ [⟨call, .error failure⟩]) t' →
      fails (.host failure) t') :
    Ensures (p.ask call) t returns fails := by
  have talks := asked.talks.ask call
  have calls (outcome : Except ε call.Answer) : t.calls ++ [call] =
      s.calls ++ (exchanges ++ [(⟨call, outcome⟩ : Exchange ε)]).map (·.call) := by
    simp [asked.calls]
  refine .bind (.get (.bind (.set ?_)))
  split
  · rename_i answer outcome
    rw [outcome] at talks
    exact .pure (answered answer _ ⟨talks, calls _⟩ rfl)
  · rename_i failure outcome
    rw [outcome] at talks
    exact .throw (failed failure _ ⟨talks, calls _⟩)

theorem ensures_report (asked : Asked p s exchanges t) (level : Log.Level) (message : String)
    {returns : Unit → ProvisionState σ → Prop} {fails : ProvisionFault ε → ProvisionState σ → Prop}
    (reported : ∀ t', Asked p s exchanges t' → t'.workspace.disk = t.workspace.disk → returns () t') :
    Ensures (report level message : Provisioning σ ε Unit) t returns fails :=
  .modify (reported _ ⟨asked.talks, asked.calls⟩ rfl)

theorem ensures_work {α : Type} {part : Work MaterializeFault α} (asked : Asked p s exchanges t)
    {returns : α → ProvisionState σ → Prop} {fails : ProvisionFault ε → ProvisionState σ → Prop}
    (done : ∀ a w t', part.run t.workspace = (.ok a, w) → Asked p s exchanges t' → returns a t')
    (failed : ∀ fault w t', part.run t.workspace = (.error fault, w) → Asked p s exchanges t' →
      fails (.materialize fault) t') :
    Ensures (work part : Provisioning σ ε α) t returns fails := by
  refine .bind (.get ?_)
  rcases run : part.run t.workspace with ⟨_ | _, w⟩
  · simp only
    exact .bind (.set (.throw (failed _ _ _ run ⟨asked.talks, asked.calls⟩)))
  · simp only
    exact .bind (.set (.pure (done _ _ _ run ⟨asked.talks, asked.calls⟩)))

/-! ## Filling a project -/

/-- A project is being filled: all calls were answered, those behind `start` being calls that fill it. -/
def Filling (p : Provisioner σ ε) (s : ProvisionState σ) (start : List (Exchange ε))
    (t : ProvisionState σ) : Prop :=
  ∃ rest, Asked p s (start ++ rest) t ∧ (∀ e ∈ rest, e.fills = true) ∧
    ∀ e ∈ start ++ rest, e.succeeds = true

/-- Filling a project was stopped. -/
def StoppedFilling (p : Provisioner σ ε) (s : ProvisionState σ) (start : List (Exchange ε)) (disk : Disk)
    (parameters : Project.Parameters) (fault : ProvisionFault ε) (t : ProvisionState σ) : Prop :=
  ∃ rest, Asked p s (start ++ rest) t ∧ (∀ e ∈ rest, e.fills = true) ∧
    Stopped p disk parameters (start ++ rest) fault

variable {start : List (Exchange ε)} {disk : Disk} {parameters : Project.Parameters}

theorem forall_mem_concat {property : Exchange ε → Prop} {front : List (Exchange ε)} {last : Exchange ε}
    (others : ∀ e ∈ front, property e) (holds : property last) : ∀ e ∈ front ++ [last], property e :=
  List.forall_mem_append.mpr ⟨others, List.forall_mem_singleton.mpr holds⟩

theorem ensures_ask_filling (filling : Filling p s start t) (call : Call)
    (fills : ∀ outcome : Except ε call.Answer, Exchange.fills ⟨call, outcome⟩ = true)
    {returns : call.Answer → ProvisionState σ → Prop}
    (answered : ∀ answer t', Filling p s start t' → t'.workspace.disk = t.workspace.disk → returns answer t') :
    Ensures (p.ask call) t returns (StoppedFilling p s start disk parameters) := by
  obtain ⟨rest, asked, plain, succeeded⟩ := filling
  refine ensures_ask asked call (fun answer t' asked' kept => ?_) fun failure t' asked' => ?_
  · rw [List.append_assoc] at asked'
    refine answered answer t' ⟨_, asked', forall_mem_concat plain (fills _), ?_⟩ kept
    rw [← List.append_assoc]
    exact forall_mem_concat succeeded rfl
  · rw [List.append_assoc] at asked'
    refine ⟨_, asked', forall_mem_concat plain (fills _), ?_⟩
    rw [← List.append_assoc]
    exact .host call failure succeeded

/-- A template that was downloaded is materialized, or else this is what stops the run. -/
theorem ensures_download {α : Type} (filling : Filling p s start t) (source : String) (level : Log.Level)
    (message : String) {next : Manifest → Provisioning σ ε α} {returns : α → ProvisionState σ → Prop}
    (goesOn : ∀ manifest t', Filling p s start t' →
      Ensures (next manifest) t' returns (StoppedFilling p s start t.workspace.disk parameters)) :
    Ensures (do
      let archive ← p.ask (.download source)
      report level message
      let manifest ← work (p.materializer.materializeArchive archive parameters p.directory)
      next manifest) t returns (StoppedFilling p s start t.workspace.disk parameters) := by
  obtain ⟨rest, asked, plain, succeeded⟩ := filling
  refine .bind (ensures_ask asked _ (fun archive t₁ asked₁ kept₁ => ?_) fun failure t₁ asked₁ => ?_)
  · refine .bind (ensures_report asked₁ level message fun t₂ asked₂ kept₂ => ?_)
    rw [List.append_assoc] at asked₂
    have fills : ∀ e ∈ rest ++ [⟨.download source, .ok archive⟩], e.fills = true :=
      forall_mem_concat plain rfl
    refine .bind (ensures_work asked₂ (fun manifest _ t₃ _ asked₃ => ?_) fun fault w t₃ run asked₃ => ?_)
    · refine goesOn manifest t₃ ⟨_, asked₃, fills, ?_⟩
      rw [← List.append_assoc]
      exact forall_mem_concat succeeded rfl
    · refine ⟨_, asked₃, fills, ?_⟩
      have workspace : t₂.workspace = ⟨t.workspace.disk, t₂.workspace.log⟩ := by
        rw [← kept₁, ← kept₂]
      rw [workspace] at run
      rw [← List.append_assoc]
      exact .materialize succeeded run
  · rw [List.append_assoc] at asked₁
    refine ⟨_, asked₁, forall_mem_concat plain rfl, ?_⟩
    rw [← List.append_assoc]
    exact .host _ failure succeeded

theorem ensures_populate (filling : Filling p s start t) (source path : String)
    (parameters : Project.Parameters) :
    Ensures (p.populate source path parameters) t (fun _ t' => Filling p s start t')
      (StoppedFilling p s start t.workspace.disk parameters) := by
  refine .bind (ensures_ask_filling filling _ (fun _ => rfl) fun variableCount t₁ filling₁ kept₁ => ?_)
  refine .bind (ensures_ask_filling filling₁ _ (fun _ => rfl) fun runnerCount t₂ filling₂ kept₂ => ?_)
  rw [← kept₁, ← kept₂]
  refine ensures_download filling₂ source _ _ fun manifest t₃ filling₃ => ?_
  refine .bind (ensures_ask_filling filling₃ _ (fun _ => rfl) fun _ t₄ filling₄ _ => ?_)
  simp only
  split
  · exact .pure filling₄
  · refine .bind (ensures_ask_filling filling₄ _ (fun _ => rfl) fun _ t₅ filling₅ _ => ?_)
    exact .bind (ensures_ask_filling filling₅ _ (fun _ => rfl) fun _ t₆ filling₆ _ => .pure filling₆)

/-! ## Runs -/

/-- A deletion is asked for once, whatever comes of it; only a wish to stop at once is a failure. -/
theorem ensures_compensate (asked : Asked p s exchanges t) (path : String) :
    Ensures (p.compensate path) t
      (fun _ t' => ∃ outcome, Asked p s (exchanges ++ [⟨.deleteProject path, outcome⟩]) t')
      fun _ t' => (∃ failure, p.host.interrupts failure = true) ∧
        ∃ outcome, Asked p s (exchanges ++ [⟨.deleteProject path, outcome⟩]) t' := by
  refine .bind (.tryCatch (.bind (ensures_ask asked _ (fun answer t₁ asked₁ _ => ?_)
    fun failure t₁ asked₁ => ?_)))
  · exact .pure (ensures_report asked₁ _ _ fun t₂ asked₂ _ => ⟨_, asked₂⟩)
  · simp only
    split
    · rename_i interrupts
      exact .throw ⟨⟨failure, interrupts⟩, _, asked₁⟩
    · exact .pure (ensures_report asked₁ _ _ fun t₂ asked₂ _ => ⟨_, asked₂⟩)

theorem interrupts_eq_false (ordinary : ∀ failure, p.host.interrupts failure = false)
    (fault : ProvisionFault ε) : p.interrupts fault = false := by
  cases fault with
  | host failure => exact ordinary failure
  | _ => rfl

/-- The exchanges by which a project is made. -/
def made (order : ProjectOrder) (parameters : Project.Parameters) (description : String) :
    List (Exchange ε) :=
  [⟨.projectExists (order.group ++ "/" ++ parameters.name), .ok false⟩,
    ⟨.createProject parameters.name order.group description, .ok ()⟩]

theorem inert_of_fills {order : ProjectOrder} {description : String} {rest : List (Exchange ε)}
    (fills : ∀ e ∈ rest, e.fills = true) :
    ∀ e ∈ made order parameters description ++ rest, e.deletes = false ∧ e.forbids = false := by
  intro e known
  rcases List.mem_append.mp known with early | late
  · simp only [made, List.mem_cons, List.not_mem_nil, or_false] at early
    rcases early with rfl | rfl
    · exact ⟨rfl, rfl⟩
    · exact ⟨rfl, rfl⟩
  · exact (Exchange.fills_inert (fills e late)).2

section Outcomes

variable {order : ProjectOrder}
  (accepted : Project.Parameters.ofValues order.name order.port = .ok parameters)

theorem compensates_of_refused {fault : Project.ParameterFault}
    (refused : Project.Parameters.ofValues order.name order.port = .error fault) :
    Compensates p order disk [] (.error (.parameters fault)) where
  deletes_iff := by simp
  deletion before e after split := by simp at split
  forbidden before e after split := by simp at split
  refused other refused' := by
    rw [refused] at refused'
    cases refused'
    exact ⟨rfl, rfl⟩

include accepted

theorem compensates_of_unmade {front : List (Exchange ε)} {last : Exchange ε} (fault : ProvisionFault ε)
    (inert : ∀ e ∈ front, e.creates = false ∧ e.deletes = false ∧ e.forbids = false)
    (unmade : last.creates = false) (undeleted : last.deletes = false) :
    Compensates p order disk (front ++ [last]) (.error fault) where
  deletes_iff := by
    have noDeletion := forall_mem_concat (fun e known => (inert e known).2.1) undeleted
    have noCreation := forall_mem_concat (fun e known => (inert e known).1) unmade
    constructor
    · rintro ⟨e, known, deletes⟩
      rw [noDeletion e known] at deletes
      cases deletes
    · rintro ⟨⟨e, known, creates⟩, -⟩
      rw [noCreation e known] at creates
      cases creates
  deletion before e after split deletes := by
    obtain ⟨-, rfl, -⟩ := Exchange.eq_of_split (fun e known => (inert e known).2.1) split deletes
    rw [undeleted] at deletes
    cases deletes
  forbidden before e after split forbids := by
    obtain ⟨-, -, rfl⟩ := Exchange.eq_of_split (fun e known => (inert e known).2.2) split forbids
    exact ⟨rfl, fault, rfl⟩
  refused fault refused := by
    rw [accepted] at refused
    cases refused

theorem compensates_of_filled {rest : List (Exchange ε)} (description : String) (result : Provisioned)
    (fills : ∀ e ∈ rest, e.fills = true) :
    Compensates p order disk (made order parameters description ++ rest) (.ok result) := by
  have inert : ∀ e ∈ made order parameters description ++ rest, e.deletes = false ∧ e.forbids = false :=
    inert_of_fills fills
  constructor
  · constructor
    · rintro ⟨e, known, deletes⟩
      rw [(inert e known).1] at deletes
      cases deletes
    · rintro ⟨-, fault, same⟩
      cases same
  · intro before e after split deletes
    have known : e ∈ made order parameters description ++ rest := split ▸ by simp
    rw [(inert e known).1] at deletes
    cases deletes
  · intro before e after split forbids
    have known : e ∈ made order parameters description ++ rest := split ▸ by simp
    rw [(inert e known).2] at forbids
    cases forbids
  · intro fault refused
    rw [accepted] at refused
    cases refused

theorem compensates_of_deleted {rest : List (Exchange ε)} {description : String} {fault : ProvisionFault ε}
    (deletion : Except ε Unit) (fills : ∀ e ∈ rest, e.fills = true)
    (stopped : Stopped p disk parameters (made order parameters description ++ rest) fault) :
    Compensates p order disk
      (made order parameters description ++ rest ++
        [⟨.deleteProject (order.group ++ "/" ++ parameters.name), deletion⟩]) (.error fault) := by
  have inert : ∀ e ∈ made order parameters description ++ rest, e.deletes = false ∧ e.forbids = false :=
    inert_of_fills fills
  constructor
  · refine iff_of_true ⟨_, List.mem_append_right _ List.mem_cons_self, rfl⟩ ⟨?_, fault, rfl⟩
    exact ⟨⟨.createProject parameters.name order.group description, .ok ()⟩, by simp [made], rfl⟩
  · intro before e after split deletes
    obtain ⟨rfl, rfl, rfl⟩ := Exchange.eq_of_split (fun e known => (inert e known).1) split deletes
    refine ⟨rfl, fun e known => (inert e known).1, parameters, fault, accepted, rfl, ?_, rfl, stopped⟩
    simp [made]
  · intro before e after split forbids
    obtain ⟨-, -, rfl⟩ := Exchange.eq_of_split (fun e known => (inert e known).2) split forbids
    exact ⟨rfl, fault, rfl⟩
  · intro fault refused
    rw [accepted] at refused
    cases refused

end Outcomes

/-- What a run does once the host said that its project is free. -/
theorem ensures_create {order : ProjectOrder} (accepted : Project.Parameters.ofValues order.name order.port =
      .ok parameters) (ordinary : ∀ failure, p.host.interrupts failure = false)
    (free : Asked p s [⟨.projectExists (order.group ++ "/" ++ parameters.name), .ok false⟩] t)
    (description : String) :
    Ensures (do
      p.ask (.createProject parameters.name order.group description)
      tryCatch (p.populate (p.templatePath order.template) (order.group ++ "/" ++ parameters.name) parameters)
        fun fault => do
          if p.interrupts fault then throw fault
          else
            report .error ("Provisioning " ++ (order.group ++ "/" ++ parameters.name) ++
              " failed, deleting the project")
            p.compensate (order.group ++ "/" ++ parameters.name)
            throw fault) t
      (fun result t' => ∃ exchanges, Asked p s exchanges t' ∧
        Compensates p order t.workspace.disk exchanges (.ok result))
      (fun fault t' => ∃ exchanges, Asked p s exchanges t' ∧
        Compensates p order t.workspace.disk exchanges (.error fault)) := by
  refine .bind (ensures_ask free _ (fun _ t₁ asked₁ kept₁ => ?_) fun failure t₁ asked₁ => ?_)
  · have answered : ∀ e : Exchange ε, e ∈ made order parameters description ++ [] → e.succeeds = true := by
      simp only [made, List.append_nil, List.forall_mem_cons]
      exact ⟨rfl, rfl, nofun⟩
    have filling : Filling p s (made order parameters description) t₁ :=
      ⟨[], by simpa [made] using asked₁, nofun, answered⟩
    rw [← kept₁]
    refine .tryCatch ((ensures_populate filling _ _ parameters).mono ?_ ?_)
    · rintro result t₂ ⟨rest, asked₂, fills, -⟩
      exact ⟨_, asked₂, compensates_of_filled accepted description result fills⟩
    · rintro fault t₂ ⟨rest, asked₂, fills, stopped⟩
      rw [interrupts_eq_false ordinary fault]
      refine .bind (ensures_report asked₂ _ _ fun t₃ asked₃ _ => ?_)
      refine .bind ((ensures_compensate asked₃ _).mono ?_ ?_)
      · rintro _ t₄ ⟨deletion, asked₄⟩
        exact .throw ⟨_, asked₄, compensates_of_deleted accepted deletion fills stopped⟩
      · rintro _ t₄ ⟨⟨failure, interrupts⟩, -⟩
        rw [ordinary failure] at interrupts
        cases interrupts
  · refine ⟨_, asked₁, compensates_of_unmade accepted _ ?_ rfl rfl⟩
    simp only [List.mem_singleton, forall_eq]
    exact ⟨rfl, rfl, rfl⟩

/-- Whatever the host answers and wherever it fails, a run deletes exactly the project that it made and could
not fill, as its last call, and reports what stopped it. -/
theorem provision_compensates (p : Provisioner σ ε) (ordinary : ∀ failure, p.host.interrupts failure = false)
    (order : ProjectOrder) (s : ProvisionState σ) :
    ∃ exchanges, Asked p s exchanges ((p.provision order).run s).2 ∧
      Compensates p order s.workspace.disk exchanges ((p.provision order).run s).1 := by
  suffices ensures : Ensures (p.provision order) s
      (fun result t => ∃ exchanges, Asked p s exchanges t ∧
        Compensates p order s.workspace.disk exchanges (.ok result))
      (fun fault t => ∃ exchanges, Asked p s exchanges t ∧
        Compensates p order s.workspace.disk exchanges (.error fault)) by
    unfold Ensures at ensures
    rcases run : (p.provision order).run s with ⟨_ | _, t⟩
    · rwa [run] at ensures
    · rwa [run] at ensures
  have start : Asked p s [] s := ⟨.nil, by simp⟩
  unfold provision
  cases accepted : Project.Parameters.ofValues order.name order.port with
  | error fault => exact .throw ⟨[], start, compensates_of_refused accepted⟩
  | ok parameters =>
      refine .bind (ensures_ask start _ (fun isTaken t₁ asked₁ kept₁ => ?_) fun failure t₁ asked₁ => ?_)
      · cases isTaken with
        | true => exact .throw ⟨_, asked₁, compensates_of_unmade accepted _ (by simp) rfl rfl⟩
        | false => exact kept₁ ▸ ensures_create accepted ordinary asked₁ _
      · exact ⟨_, asked₁, compensates_of_unmade accepted _ (by simp) rfl rfl⟩

/-- A project whose variables cannot be copied is deleted; that this fails too changes nothing about what is
reported. -/
theorem provision_compensates_failed_deletion :
    ∃ (p : Provisioner (List String) String) (order : ProjectOrder) (exchanges : List (Exchange String)),
      (∀ failure, p.host.interrupts failure = false) ∧
        exchanges.map (·.call) = [.projectExists "g/a", .createProject "a" "g" "a",
          .copyVariables "template/t" "g/a", .deleteProject "g/a"] ∧
        Compensates p order {} exchanges (.error (.host "no copy")) := by
  let host : MemoryHost String :=
    { failure? := fun call => match call with
        | .copyVariables _ _ => some "no copy"
        | .deleteProject _ => some "no deletion"
        | _ => none }
  let p : Provisioner (List String) String :=
    { host := host.toHost id fun _ => false, directory := ['/', 't'] }
  let order : ProjectOrder := ⟨"t", .text "a", "g", .int 1, none⟩
  obtain ⟨exchanges, asked, compensates⟩ := provision_compensates p (fun _ => rfl) order { host := [] }
  have calls : ((p.provision order).run { host := [] }).2.calls = [.projectExists "g/a",
      .createProject "a" "g" "a", .copyVariables "template/t" "g/a", .deleteProject "g/a"] := by rfl
  have outcome : ((p.provision order).run { host := [] }).1 = .error (.host "no copy") := by rfl
  rw [asked.calls] at calls
  rw [outcome] at compensates
  exact ⟨p, order, exchanges, fun _ => rfl, calls, compensates⟩

end Provisioner

end Stencil
