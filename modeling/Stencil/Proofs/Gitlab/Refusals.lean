import Mathlib
import Stencil.Proofs.Gitlab.Downloads
import Stencil.Proofs.Gitlab.Pages

/-!
# Refusals

Where the network only answers or is not reached, a call fails with a refusal of the host unless an answer is
misshapen: a page of a list that is no data, or an item without the fields that are read of it.
-/

namespace Stencil.Gitlab

open Data (Value)
open Http (Request Response)

variable {σ α β : Type}

/-- Whether a failure is neither a refusal of the host nor that of a list that does not end. -/
def Fault.IsStray (fault : Fault) : Prop :=
  fault.isRefusal = false ∧ fault ≠ .endless

/-- Whether a part of an exchange fails otherwise than with a refusal of the host, a list that does not end
apart. -/
def Strays (part : Exchange σ α) (session : Session σ) : Prop :=
  ∃ fault after, part.run session = (.error fault, after) ∧ fault.IsStray

/-- Whether a part of an exchange fails only with refusals of the host. -/
def Refuses (part : Exchange σ α) (session : Session σ) : Prop :=
  Ensures part session (fun _ _ => True) fun fault _ => fault.isRefusal = true

/-! ## Parts -/

section Parts

variable {part : Exchange σ α} {next : α → Exchange σ β} {session : Session σ}

theorem strays_of_run {fault : Fault} {after : Session σ} (ran : part.run session = (.error fault, after)) :
    Strays part session ↔ fault.IsStray := by
  refine ⟨?_, fun isStray => ⟨fault, after, ran, isStray⟩⟩
  rintro ⟨fault', after', ran', isStray⟩
  rw [ran] at ran'
  cases ran'
  exact isStray

theorem not_strays_of_ok {a : α} {after : Session σ} (ran : part.run session = (.ok a, after)) :
    ¬Strays part session := by
  rintro ⟨fault, after', ran', -⟩
  rw [ran] at ran'
  cases ran'

theorem Refuses.not_strays (refuses : Refuses part session) : ¬Strays part session := by
  rintro ⟨fault, after, ran, apart, -⟩
  rw [Refuses, Ensures, ran] at refuses
  exact Bool.false_ne_true (apart.symm.trans refuses)

theorem Refuses.bind (refuses : Refuses part session) (refusesOn : ∀ a after, Refuses (next a) after) :
    Refuses (part >>= next) session :=
  Ensures.bind (refuses.mono (fun a after _ => refusesOn a after) fun _ _ refusal => refusal)

theorem refuses_pure (a : α) (session : Session σ) : Refuses (pure a) session :=
  .pure True.intro

theorem refuses_report (level : Log.Level) (message : String) (session : Session σ) :
    Refuses (Client.report level message) session :=
  .modify True.intro

theorem strays_bind_of_error {fault : Fault} {after : Session σ}
    (ran : part.run session = (.error fault, after)) : Strays (part >>= next) session ↔ fault.IsStray :=
  strays_of_run (by rw [run_bind, ran])

theorem strays_bind_of_ok {a : α} {after : Session σ} (ran : part.run session = (.ok a, after)) :
    Strays (part >>= next) session ↔ Strays (next a) after := by
  rw [Strays, run_bind, ran]
  exact Iff.rfl

theorem strays_bind_iff : Strays (part >>= next) session ↔
    Strays part session ∨ ∃ a after, part.run session = (.ok a, after) ∧ Strays (next a) after := by
  rcases ran : part.run session with ⟨fault | a, after⟩
  · rw [strays_bind_of_error ran, strays_of_run ran]
    refine (or_iff_left ?_).symm
    rintro ⟨a, after', ⟨⟩, -⟩
  · rw [strays_bind_of_ok ran, or_iff_right (not_strays_of_ok ran)]
    refine ⟨fun strays => ⟨a, after, rfl, strays⟩, ?_⟩
    rintro ⟨a', after', ⟨⟩, strays⟩
    exact strays

theorem strays_bind_pure_iff {f : α → β} :
    Strays (do return f (← part)) session ↔ Strays part session := by
  rw [strays_bind_iff]
  refine or_iff_left ?_
  rintro ⟨a, after, -, strays⟩
  exact not_strays_of_ok (run_pure (f a) after) strays

/-- A part whose failures are refusals comes to a value where a refusal is one. -/
theorem run_orRefusal (refuses : Refuses part session) :
    ∃ outcome after, (Client.orRefusal part).run session = (.ok outcome, after) ∧
      ∀ fault, outcome = .error fault → fault.isRefusal = true := by
  have caught : Ensures (Client.orRefusal part) session
      (fun outcome _ => ∀ fault, outcome = .error fault → fault.isRefusal = true) fun _ _ => False := by
    refine .tryCatch (.bind (refuses.mono ?_ ?_))
    · intro a after _
      exact .pure (by simp)
    · intro fault after refusal
      rw [if_pos refusal]
      exact .pure (by simpa using refusal)
  obtain ⟨outcome, after, ran, refusal⟩ | ⟨fault, after, ran, failed⟩ := caught.outcome
  · exact ⟨outcome, after, ran, refusal⟩
  · exact failed.elim

/-- Something that is handed over comes to a value, whether it is taken or refused. -/
theorem run_handOver {part : Exchange σ Unit} (refuses : Refuses part session) (success : String)
    (failure : Fault → String) :
    ∃ taken after, (do
      match ← Client.orRefusal part with
      | .ok _ =>
        Client.report .info success
        return true
      | .error fault =>
        Client.report .warning (failure fault)
        return false : Exchange σ Bool).run session = (.ok taken, after) := by
  obtain ⟨outcome, after, ran, -⟩ := run_orRefusal refuses
  rw [run_bind, ran]
  cases outcome with
  | ok _ => exact ⟨true, _, rfl⟩
  | error fault => exact ⟨false, _, rfl⟩

end Parts

namespace Client

/-! ## Requests -/

/-- Whether a network only answers or is not reached. -/
def Plain (client : Client σ) : Prop :=
  ∀ request network failure, (client.transport request network).1 ≠ .error (.failure failure)

section Requests

variable {client : Client σ} (plain : client.Plain) {method : Http.Method} {path : String}
  {parameters : Option (List (String × Value))} {body : Option Value} {session : Session σ}

theorem run_send_eq_ok_iff {response : Response} {after : Session σ} :
    (client.send method path parameters body).run session = (.ok response, after) ↔
      ∃ network, client.transport (client.request method path parameters body) session.network =
          (.ok response, network) ∧ response.isFailure = false ∧
        after = session.sent [client.request method path parameters body] network := by
  rw [run_send]
  rcases came : client.transport (client.request method path parameters body) session.network with
    ⟨outcome, network⟩
  change ((settle method path outcome, _) : Except Fault Response × Session σ) = _ ↔ _
  rw [Prod.mk.injEq, settle_eq_ok_iff]
  constructor
  · rintro ⟨⟨rfl, success⟩, rfl⟩
    exact ⟨network, rfl, success, rfl⟩
  · rintro ⟨network', same, success, rfl⟩
    obtain ⟨rfl, rfl⟩ := Prod.mk.inj same
    exact ⟨⟨rfl, success⟩, rfl⟩

include plain

/-- A request comes to a success or to a refusal. -/
theorem refuses_send : Refuses (client.send method path parameters body) session := by
  have came := plain (client.request method path parameters body) session.network
  rw [Refuses, Ensures, run_send]
  cases settled : settle method path
      (client.transport (client.request method path parameters body) session.network).1 with
  | ok response => exact True.intro
  | error fault => exact isRefusal_of_settle came settled

end Requests

theorem run_readData_eq_ok_iff {response : Response} {session after : Session σ} {v : Value} :
    (readData response : Exchange σ Value).run session = (.ok v, after) ↔
      Data.Json.read response.text = .ok v ∧ after = session := by
  rw [readData]
  cases Data.Json.read response.text with
  | ok v' =>
      constructor
      · intro ran
        cases ran
        exact ⟨rfl, rfl⟩
      · rintro ⟨⟨⟩, rfl⟩
        rfl
  | error fault =>
      constructor
      · intro ran
        cases ran
      · rintro ⟨⟨⟩, -⟩

theorem strays_readData_iff {response : Response} {session : Session σ} :
    Strays (readData response) session ↔ ∃ fault, Data.Json.read response.text = .error fault := by
  rw [readData]
  cases Data.Json.read response.text with
  | ok v => simp [not_strays_of_ok (run_pure v session)]
  | error fault => simp [strays_of_run (run_throw _ session), Fault.IsStray, Fault.isRefusal]

theorem strays_readData_bind_iff {response : Response} {next : Value → Exchange σ α} {session : Session σ} :
    Strays (readData response >>= next) session ↔
      (∃ fault, Data.Json.read response.text = .error fault) ∨
        ∃ v, Data.Json.read response.text = .ok v ∧ Strays (next v) session := by
  rw [strays_bind_iff, strays_readData_iff]
  simp only [run_readData_eq_ok_iff, and_assoc, exists_and_left, exists_eq_left]

/-! ## Lists -/

/-- From a page on, some page of a list that is asked for is no data, although it comes as a success; the pages
before it are sent as such, and each announces the next one. -/
inductive Garbled (client : Client σ) (path : String) (parameters : List (String × Value)) :
    σ → String → Nat → Prop
  /-- The first page is no data. -/
  | here {network network' : σ} {number : String} {response : Response} {fault : Data.Json.Fault}
    (answers : client.transport (client.pageRequest path parameters number) network = (.ok response, network'))
    (success : response.isFailure = false) (unreadable : Data.Json.read response.text = .error fault) :
    Garbled client path parameters network number 1
  /-- A later page is no data. -/
  | later {network network' : σ} {number next : String} {page : Page} {count : Nat}
    (sends : client.Sends path parameters network number page network')
    (announces : nextPage? page.response = some next)
    (rest : Garbled client path parameters network' next count) :
    Garbled client path parameters network number (count + 1)

/-- A list is misshapen: a page of it is no data, or its items are not as they should be. -/
def MisshapenList (client : Client σ) (path : String) (parameters : List (String × Value)) (network : σ)
    (misshapen : List Value → σ → Prop) : Prop :=
  (∃ count ≤ client.mostPages, client.Garbled path parameters network "1" count) ∨
    ∃ pages network', client.Lists path parameters network pages network' ∧
      misshapen (Page.items pages) network'

section Lists

variable {client : Client σ} (plain : client.Plain) {path : String} {parameters : List (String × Value)}
  {session : Session σ} {number : String} {most : Nat}

theorem exists_serves {items : List Value} {after : Session σ}
    (ran : (client.listFrom path parameters most number).run session = (.ok items, after)) :
    ∃ pages network, client.Serves path parameters session.network number pages network ∧ pages.length ≤ most := by
  induction most generalizing number session items after with
  | zero => cases ran
  | succ most induction =>
      obtain ⟨response, after₁, sent, ran₁⟩ := run_bind_eq_ok_iff.mp ran
      obtain ⟨v, after₂, read, ran₂⟩ := run_bind_eq_ok_iff.mp ran₁
      obtain ⟨network, answers, success, rfl⟩ := run_send_eq_ok_iff.mp sent
      obtain ⟨data, rfl⟩ := run_readData_eq_ok_iff.mp read
      have sends : client.Sends path parameters session.network number ⟨response, v⟩ network :=
        ⟨answers, success, data⟩
      cases announces : nextPage? response with
      | none => exact ⟨_, network, .last sends announces, by simp⟩
      | some next =>
          simp only [announces] at ran₂
          obtain ⟨rest, after₃, ran₃, -⟩ := run_bind_eq_ok_iff.mp ran₂
          obtain ⟨pages, network', serves, few⟩ := induction ran₃
          exact ⟨_, network', .more sends announces serves, Nat.succ_le_succ few⟩

/-- A list that is read is one that the network sends. -/
theorem run_list_eq_ok_iff {items : List Value} {after : Session σ} :
    (client.list path parameters).run session = (.ok items, after) ↔
      ∃ pages network, client.Lists path parameters session.network pages network ∧ items = Page.items pages ∧
        after = session.sent (client.pageRequests path parameters pages) network := by
  constructor
  · intro ran
    obtain ⟨pages, network, serves, few⟩ := exists_serves ran
    have same := ran.symm.trans (run_list rfl ⟨serves, few⟩)
    cases same
    exact ⟨pages, network, ⟨serves, few⟩, rfl, rfl⟩
  · rintro ⟨pages, network, lists, rfl, rfl⟩
    exact run_list rfl lists

include plain

theorem strays_listFrom_succ_iff :
    Strays (client.listFrom path parameters (most + 1) number) session ↔
      ∃ response network, client.transport (client.pageRequest path parameters number) session.network =
          (.ok response, network) ∧ response.isFailure = false ∧
        ((∃ fault, Data.Json.read response.text = .error fault) ∨
          ∃ v next, Data.Json.read response.text = .ok v ∧ nextPage? response = some next ∧
            Strays (client.listFrom path parameters most next)
              (session.sent [client.pageRequest path parameters number] network)) := by
  rw [listFrom, strays_bind_iff, or_iff_right (refuses_send plain).not_strays]
  constructor
  · rintro ⟨response, after, sent, strays⟩
    obtain ⟨network, answers, success, rfl⟩ := run_send_eq_ok_iff.mp sent
    refine ⟨response, network, answers, success, (strays_readData_bind_iff.mp strays).imp_right ?_⟩
    rintro ⟨v, data, strays⟩
    cases announces : nextPage? response with
    | none =>
        simp only [announces] at strays
        exact absurd strays (not_strays_of_ok (run_pure (pageItems v) _))
    | some next =>
        simp only [announces] at strays
        exact ⟨v, next, data, rfl, strays_bind_pure_iff.mp strays⟩
  · rintro ⟨response, network, answers, success, misshapen⟩
    refine ⟨response, _, run_send_eq_ok_iff.mpr ⟨network, answers, success, rfl⟩,
      strays_readData_bind_iff.mpr (misshapen.imp_right ?_)⟩
    rintro ⟨v, next, data, announces, strays⟩
    refine ⟨v, data, ?_⟩
    simp only [announces]
    exact strays_bind_pure_iff.mpr strays

/-- The reading of a list fails otherwise than with a refusal exactly if some page of it is no data. -/
theorem strays_listFrom_iff :
    Strays (client.listFrom path parameters most number) session ↔
      ∃ count ≤ most, client.Garbled path parameters session.network number count := by
  induction most generalizing number session with
  | zero =>
      have unread : ¬Strays (client.listFrom path parameters 0 number) session := by
        rw [listFrom, strays_of_run (run_throw _ session)]
        simp [Fault.IsStray]
      refine iff_of_false unread ?_
      rintro ⟨count, few, garbled⟩
      cases garbled with
      | here => cases few
      | later => cases few
  | succ most induction =>
      rw [strays_listFrom_succ_iff plain]
      constructor
      · rintro ⟨response, network, answers, success, ⟨fault, unreadable⟩ | ⟨v, next, data, announces, strays⟩⟩
        · exact ⟨1, by omega, .here answers success unreadable⟩
        · obtain ⟨count, few, garbled⟩ := induction.mp strays
          have sends : client.Sends path parameters session.network number ⟨response, v⟩ network :=
            ⟨answers, success, data⟩
          exact ⟨count + 1, by omega, .later sends announces garbled⟩
      · rintro ⟨count, few, garbled⟩
        cases garbled with
        | here answers success unreadable => exact ⟨_, _, answers, success, .inl ⟨_, unreadable⟩⟩
        | later sends announces rest =>
            refine ⟨_, _, sends.response, sends.success, .inr ⟨_, _, sends.data, announces, ?_⟩⟩
            exact induction.mpr ⟨_, Nat.le_of_succ_le_succ few, rest⟩

theorem strays_list_bind_iff {next : List Value → Exchange σ α} {misshapen : List Value → σ → Prop}
    (strays : ∀ items after, Strays (next items) after ↔ misshapen items after.network) :
    Strays (client.list path parameters >>= next) session ↔
      client.MisshapenList path parameters session.network misshapen := by
  rw [strays_bind_iff, list, strays_listFrom_iff plain]
  refine or_congr_right ⟨?_, ?_⟩
  · rintro ⟨items, after, ran, failed⟩
    obtain ⟨pages, network, lists, rfl, rfl⟩ := run_list_eq_ok_iff.mp ran
    exact ⟨pages, network, lists, (strays _ _).mp failed⟩
  · rintro ⟨pages, network, lists, failed⟩
    exact ⟨_, _, run_list rfl lists, (strays _ _).mpr failed⟩

end Lists

/-! ## Groups and projects -/

theorem numberOf_cases (v : Value) :
    (∃ number, v.get? "id" = some number ∧ numberOf v = .ok number) ∨
      v.get? "id" = none ∧ ∃ fault, numberOf v = .error fault ∧ fault.IsStray := by
  cases numbered : v.get? "id" with
  | some number => exact .inl ⟨number, rfl, numberOf_of_get? numbered⟩
  | none =>
      refine .inr ⟨rfl, ?_⟩
      cases v with
      | mapping entries =>
          have missing : Value.find? "id" entries = none := numbered
          refine ⟨.missing "id", ?_, rfl, by simp⟩
          rw [numberOf, missing]
      | _ => exact ⟨_, rfl, rfl, by simp⟩

theorem strays_findGroup_bind_iff {group : String} {items : List Value} {next : Value → Exchange σ α}
    {session : Session σ} :
    Strays (findGroup group items >>= next) session ↔
      ∃ v, items.find? (endsSearch group) = some v ∧
        (v.get? "id" = none ∨ ∃ number, v.get? "id" = some number ∧ Strays (next number) session) := by
  have found : (findGroup group items : Exchange σ Value).run session = _ := run_findGroup group items
  cases ends : items.find? (endsSearch group) with
  | none =>
      rw [ends] at found
      rw [strays_bind_of_error found]
      simp [Fault.IsStray, Fault.isRefusal]
  | some v =>
      rw [ends] at found
      simp only [Option.some.injEq, exists_eq_left']
      obtain ⟨number, numbered, same⟩ | ⟨unnumbered, fault, same, isStray⟩ := numberOf_cases v
      · simp only [same] at found
        rw [strays_bind_of_ok found]
        simp [numbered]
      · simp only [same] at found
        rw [strays_bind_of_error found]
        exact iff_of_true isStray (.inl unnumbered)

theorem exists_mapping {v item : Value} {name : String} (has : v.get? name = some item) :
    ∃ entries, v = .mapping entries := by
  cases v with
  | mapping entries => exact ⟨entries, rfl⟩
  | _ => cases has

theorem strays_item_bind_iff {v : Value} {name : String} {next : Value → Exchange σ α} {session : Session σ} :
    Strays (item v name >>= next) session ↔
      v.get? name = none ∨ ∃ found, v.get? name = some found ∧ Strays (next found) session := by
  cases has : v.get? name with
  | some found =>
      obtain ⟨entries, rfl⟩ := exists_mapping has
      have same : Value.find? name entries = some found := has
      rw [item, same, strays_bind_of_ok (run_pure found session)]
      simp
  | none =>
      refine iff_of_true ?_ (.inl rfl)
      cases v with
      | mapping entries =>
          have missing : Value.find? name entries = none := has
          rw [item, missing, strays_bind_of_error (run_throw _ session)]
          exact ⟨rfl, by simp⟩
      | _ => exact (strays_bind_of_error (run_throw _ session)).mpr ⟨rfl, by simp⟩

theorem strays_gatherProjects_iff {projects : List Value} {known : List (Value × Value)} {session : Session σ} :
    Strays (gatherProjects known projects) session ↔ ∃ v ∈ projects, ¬IsProject v := by
  induction projects generalizing known with
  | nil => simp [gatherProjects, not_strays_of_ok (run_pure known session)]
  | cons v rest induction =>
      by_cases isProject : IsProject v
      · rw [Strays, run_gatherProjects_cons isProject]
        refine induction.trans ?_
        simp [isProject]
      · refine iff_of_true ?_ ⟨v, List.mem_cons_self, isProject⟩
        refine strays_item_bind_iff.mpr ?_
        cases named : v.get? "name" with
        | none => exact .inl rfl
        | some name =>
            obtain ⟨entries, rfl⟩ := exists_mapping named
            have notKey : name.isKey = false := Bool.eq_false_iff.mpr fun isKey => isProject ⟨name, named, isKey⟩
            refine .inr ⟨name, rfl, (strays_bind_of_ok (run_pure _ session)).mpr ?_⟩
            simp only [notKey]
            exact (strays_of_run (run_throw _ session)).mpr ⟨rfl, by simp⟩

/-- Whether a value has a key. -/
def IsVariable (v : Value) : Prop :=
  ∃ key, v.get? "key" = some key

/-- Whether a value is a runner: all projects have it, or it has a number. -/
def IsRunner (v : Value) : Prop :=
  (∃ entries, v = .mapping entries) ∧
    ((∃ shared, v.get? "is_shared" = some shared ∧ shared.isGiven = true) ∨ ∃ number, v.get? "id" = some number)

/-- What is done with each value goes astray exactly if it does with one of them. -/
theorem strays_countTaken_iff {take : Value → Exchange σ Bool} {fits : Value → Prop}
    (taken : ∀ v session, fits v → ∃ taken after, (take v).run session = (.ok taken, after))
    (strays : ∀ v session, ¬fits v → Strays (take v) session) {items : List Value} {session : Session σ} :
    Strays (countTaken take items) session ↔ ∃ v ∈ items, ¬fits v := by
  induction items generalizing session with
  | nil => simp [countTaken, not_strays_of_ok (run_pure 0 session)]
  | cons v rest induction =>
      rw [countTaken]
      by_cases fit : fits v
      · obtain ⟨taken, after, ran⟩ := taken v session fit
        rw [strays_bind_of_ok ran, strays_bind_pure_iff, induction]
        simp [fit]
      · refine iff_of_true (strays_bind_iff.mpr (.inl (strays v session fit))) ⟨v, List.mem_cons_self, fit⟩

section Calls

variable {client : Client σ} (plain : client.Plain) {session : Session σ}

include plain

theorem refuses_submit (method : Http.Method) (path : String) (body : List (String × Value)) :
    Refuses (client.submit method path body) session :=
  (refuses_send plain).bind fun _ after => refuses_pure () after

theorem run_copyVariable {target : String} {v : Value} (isVariable : IsVariable v) :
    ∃ taken after, (client.copyVariable target v).run session = (.ok taken, after) := by
  obtain ⟨key, has⟩ := isVariable
  obtain ⟨entries, rfl⟩ := exists_mapping has
  have same : Value.find? "key" entries = some key := has
  rw [copyVariable, item, same, run_bind, run_pure]
  exact run_handOver (refuses_submit plain _ _ _) _ _

theorem run_enableRunner {target : String} {v : Value} (isRunner : IsRunner v) :
    ∃ taken after, (client.enableRunner target v).run session = (.ok taken, after) := by
  obtain ⟨⟨entries, rfl⟩, enough⟩ := isRunner
  rw [enableRunner, field, run_bind, run_pure]
  simp only
  split
  · exact ⟨false, session, rfl⟩
  · rename_i own
    have numbered : ∃ number, Value.find? "id" entries = some number := by
      rcases enough with ⟨shared, has, given⟩ | numbered
      · have same : Value.find? "is_shared" entries = some shared := has
        simp [same, Option.filter, given] at own
      · exact numbered
    obtain ⟨number, same⟩ := numbered
    rw [item, same, run_bind, run_pure]
    exact run_handOver (refuses_submit plain _ _ _) _ _

end Calls

theorem strays_copyVariable {client : Client σ} {target : String} {v : Value} {session : Session σ}
    (other : ¬IsVariable v) : Strays (client.copyVariable target v) session := by
  refine strays_item_bind_iff.mpr (.inl ?_)
  exact Option.eq_none_iff_forall_ne_some.mpr fun key has => other ⟨key, has⟩

theorem strays_enableRunner {client : Client σ} {target : String} {v : Value} {session : Session σ}
    (other : ¬IsRunner v) : Strays (client.enableRunner target v) session := by
  cases v with
  | mapping entries =>
      obtain ⟨own, unnumbered⟩ := not_or.mp fun enough => other ⟨⟨entries, rfl⟩, enough⟩
      have unshared : ((Value.find? "is_shared" entries).filter (·.isGiven)).isSome = false := by
        cases shared : Value.find? "is_shared" entries with
        | none => rfl
        | some shared' =>
            have ungiven : shared'.isGiven = false := Bool.eq_false_iff.mpr fun given => own ⟨shared', shared, given⟩
            simp [Option.filter, ungiven]
      rw [enableRunner, field, strays_bind_of_ok (run_pure _ session)]
      simp only [unshared, Bool.false_eq_true, if_false]
      refine strays_item_bind_iff.mpr (.inl ?_)
      exact Option.eq_none_iff_forall_ne_some.mpr fun number numbered => unnumbered ⟨number, numbered⟩
  | _ => exact (strays_bind_of_error (run_throw _ session)).mpr ⟨rfl, by simp⟩

/-! ## Calls -/

/-- Whether an answer to a call is misshapen: a page of a list that is read for it is no data, or an item up to
which the list is looked at has not the fields that are read of it. -/
def Misshapen (client : Client σ) (network : σ) : Call → Prop
  | .listProjects group =>
    client.MisshapenList "/groups" (groupParameters group) network fun groups network' =>
      ∃ v, groups.find? (endsSearch group) = some v ∧ (v.get? "id" = none ∨ ∃ number, v.get? "id" = some number ∧
        client.MisshapenList (projectsPath number) projectsParameters network' fun projects _ =>
          ∃ v ∈ projects, ¬IsProject v)
  | .createProject _ group _ =>
    client.MisshapenList "/groups" (groupParameters group) network fun groups _ =>
      ∃ v, groups.find? (endsSearch group) = some v ∧ v.get? "id" = none
  | .copyVariables source _ =>
    client.MisshapenList (projectPath source ++ "/variables") [] network fun found _ =>
      ∃ v ∈ found, ¬IsVariable v
  | .enableRunners source _ =>
    client.MisshapenList (projectPath source ++ "/runners") [] network fun runners _ =>
      ∃ v ∈ runners, ¬IsRunner v
  | _ => False

section Exchange

variable {client : Client σ} (plain : client.Plain) {session : Session σ}

include plain

theorem strays_listProjects_iff {group : String} :
    Strays (client.listProjects group) session ↔ client.Misshapen session.network (.listProjects group) := by
  rw [listProjects, groupNumber, bind_assoc, Misshapen]
  refine strays_list_bind_iff plain fun groups after => ?_
  rw [strays_findGroup_bind_iff]
  have strays : ∀ number, Strays (do
      let projects ← client.list ("/groups/" ++ number.display ++ "/projects") [("include_subgroups", .text "false")]
      gatherProjects [] projects) after ↔
      client.MisshapenList (projectsPath number) projectsParameters after.network fun projects _ =>
        ∃ v ∈ projects, ¬IsProject v := fun number =>
    strays_list_bind_iff plain fun projects after => strays_gatherProjects_iff
  simp only [strays]

theorem strays_createProject_iff {name group description : String} :
    Strays (client.createProject name group description) session ↔
      client.Misshapen session.network (.createProject name group description) := by
  rw [createProject, groupNumber, bind_assoc, Misshapen]
  refine strays_list_bind_iff plain fun groups after => ?_
  rw [strays_findGroup_bind_iff]
  have steady : ∀ number after, ¬Strays (do
      client.submit .post "/projects" [("name", .text name), ("path", .text name),
        ("description", .text description), ("namespace_id", number), ("visibility", .text "private")]
      report .info ("Created project " ++ group ++ "/" ++ name)) after := fun number after =>
    ((refuses_submit plain _ _ _).bind fun _ after => refuses_report _ _ after).not_strays
  simp [steady]

theorem strays_copyVariables_iff {source target : String} :
    Strays (client.copyVariables source target) session ↔
      client.Misshapen session.network (.copyVariables source target) := by
  rw [copyVariables, Misshapen]
  refine strays_list_bind_iff plain fun found after => ?_
  have each : ∀ after : Session σ, Strays (countTaken (client.copyVariable target) found) after ↔
      ∃ v ∈ found, ¬IsVariable v := fun after =>
    strays_countTaken_iff (fun v session isVariable => run_copyVariable plain isVariable)
      fun v session other => strays_copyVariable other
  split
  · exact (strays_bind_of_ok rfl).trans (each _)
  · exact each after

theorem strays_enableRunners_iff {source target : String} :
    Strays (client.enableRunners source target) session ↔
      client.Misshapen session.network (.enableRunners source target) := by
  rw [enableRunners, Misshapen]
  refine strays_list_bind_iff plain fun runners after => ?_
  exact strays_countTaken_iff (fun v session isRunner => run_enableRunner plain isRunner)
    fun v session other => strays_enableRunner other

theorem not_strays_projectExists {project : String} : ¬Strays (client.projectExists project) session := by
  have refuses : Refuses (client.call .get (projectPath project)) session := refuses_send plain
  obtain ⟨outcome, after, ran, refusal⟩ := run_orRefusal refuses
  rw [projectExists, strays_bind_of_ok ran]
  cases outcome with
  | ok response => exact not_strays_of_ok (run_pure true after)
  | error fault =>
      simp only
      split
      · exact not_strays_of_ok (run_pure false after)
      · rw [strays_of_run (run_throw fault after), Fault.IsStray, refusal fault rfl]
        simp

theorem not_strays_downloadArchive {attempts : Int} {delay factor : Decimal.Binary64} {project : String}
    (policed : client.download = downloadPolicyWith attempts delay factor) :
    ¬Strays (client.downloadArchive project) session := by
  obtain ⟨k, -, outcome, -, -⟩ := client.run_download attempts delay factor project session policed
  rintro ⟨fault, after, ran, apart, -⟩
  rw [ran] at outcome
  cases received : client.received project session.network k with
  | ok response =>
      rw [received] at outcome
      cases outcome
  | error fault' =>
      rw [received] at outcome
      cases outcome
      have refusal := isRefusal_of_settle (plain _ _) received
      exact Bool.false_ne_true (apart.symm.trans refusal)

theorem strays_exchange_of_plain {attempts : Int} {delay factor : Decimal.Binary64}
    (policed : client.download = downloadPolicyWith attempts delay factor) (call : Call) :
    Strays (client.exchange call) session ↔ client.Misshapen session.network call := by
  cases call with
  | listProjects group => exact strays_listProjects_iff plain
  | createProject name group description => exact strays_createProject_iff plain
  | copyVariables source target => exact strays_copyVariables_iff plain
  | enableRunners source target => exact strays_enableRunners_iff plain
  | projectExists project => exact iff_of_false (not_strays_projectExists plain) not_false
  | download project => exact iff_of_false (not_strays_downloadArchive plain policed) not_false
  | commit project files branch message =>
      refine iff_of_false (Refuses.not_strays ?_) not_false
      exact (refuses_submit plain _ _ _).bind fun _ after => refuses_report _ _ after
  | createBranch project branch origin =>
      refine iff_of_false (Refuses.not_strays ?_) not_false
      exact (refuses_send plain).bind fun _ after => refuses_pure () after
  | setDefaultBranch project branch => exact iff_of_false (refuses_submit plain _ _ _).not_strays not_false
  | deleteProject project =>
      refine iff_of_false (Refuses.not_strays ?_) not_false
      exact (refuses_send plain).bind fun _ after => refuses_report _ _ after

end Exchange

/-- A client of a network that only answers or is not reached, with its own number of downloads and waits. -/
def onNetwork (client : Client σ) (network : Request → σ → Except String Response × σ) (attempts : Int)
    (delay factor : Decimal.Binary64) : Client σ :=
  { client with
    download := downloadPolicyWith attempts delay factor
    transport := fun request s => ((network request s).1.mapError .unreachable, (network request s).2) }

theorem plain_onNetwork (client : Client σ) (network : Request → σ → Except String Response × σ) (attempts : Int)
    (delay factor : Decimal.Binary64) : (client.onNetwork network attempts delay factor).Plain := by
  intro request s failure came
  change (network request s).1.mapError Http.Breakdown.unreachable = _ at came
  cases outcome : (network request s).1 with
  | ok response =>
      rw [outcome] at came
      cases came
  | error message =>
      rw [outcome] at came
      cases came

/-- A client of a host whose answers are pages for people. -/
def amongMarkup : Client Unit where
  token := "t"
  address := "/api/v4"
  transport := fun _ _ => (.ok { body := Text.Utf8.encode "<html>".toList }, ())

end Client

end Stencil.Gitlab
