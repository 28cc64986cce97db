import Mathlib
import Stencil.Proofs.Gitlab.Refusals

/-!
# Handing things over

The variables and the runners of a project are handed to another one item by item: a list is read, and then there
is one post for each item that is handed over.  What is posted depends on the items alone, and a refusal of the
host is only counted.
-/

namespace Stencil.Gitlab

open Data (Value)
open Http (Request Response)

namespace Client

variable {σ α : Type}

/-- The request that sends data to a path. -/
def post (client : Client σ) (path : String) (body : Value) : Request :=
  client.request .post path none (some body)

/-- What a post comes to, and the network behind it. -/
def posted (client : Client σ) (path : String) (body : Value) (network : σ) : Except Fault Response × σ :=
  let answer := client.transport (client.post path body) network
  (settle .post path answer.1, answer.2)

/-- What posts come to that are sent one after the other, and the network behind them. -/
def posts (client : Client σ) (path : String) : List Value → σ → List (Except Fault Response) × σ
  | [], network => ([], network)
  | body :: rest, network =>
    let first := client.posted path body network
    let others := client.posts path rest first.2
    (first.1 :: others.1, others.2)

/-- Fields as data. -/
def fieldsValue (fields : List (String × Value)) : Value :=
  .mapping (fields.map fun field => (.text field.1, field.2))

/-- A part of an exchange sends some requests, and then posts data to a path piece by piece: unless a post fails
otherwise than with a refusal of the host, all of them are sent, and those that succeed are counted. -/
def HandsOver (client : Client σ) (part : Exchange σ Nat) (session : Session σ) (reads : List Request) (network : σ)
    (path : String) (bodies : List Value) : Prop :=
  (∀ fault, .error fault ∈ (client.posts path bodies network).1 → fault.isRefusal = true) →
    ∃ log, part.run session = (.ok ((client.posts path bodies network).1.countP (·.isOk)),
      { session.sent (reads ++ bodies.map (client.post path)) (client.posts path bodies network).2 with log })

/-! ## What is sent -/

/-- What is sent for a variable. -/
def variableBody (v : Value) : Value :=
  fieldsValue (variableFields ((v.get? "key").getD .null) v)

/-- The names of all fields that are sent for a variable. -/
def variableNames : List String :=
  ["key", "value", "protected", "masked", "environment_scope", "variable_type"]

/-- What is sent for a variable is the variable: its key, its value, its two marks and its scope, for each of which
there is a default, and its kind if that is given. -/
structure KeepsVariable (v body : Value) : Prop where
  /-- The key is that of the variable. -/
  key : body.get? "key" = v.get? "key"
  /-- So is the value; without one, it is empty. -/
  value : body.get? "value" = some ((v.get? "value").getD (.text ""))
  /-- So is whether the variable is for protected branches only. -/
  guarded : body.get? "protected" = some ((v.get? "protected").getD (.bool false))
  /-- So is whether the value is hidden. -/
  masked : body.get? "masked" = some ((v.get? "masked").getD (.bool false))
  /-- So is the scope; without one, the variable is for all environments. -/
  scope : body.get? "environment_scope" = some ((v.get? "environment_scope").getD (.text "*"))
  /-- So is the kind, unless it is empty. -/
  kind : body.get? "variable_type" = (v.get? "variable_type").filter (·.isGiven)
  /-- Nothing else is sent. -/
  only : ∀ name, name ∉ variableNames → body.get? name = none

theorem get?_fieldsValue (fields : List (String × Value)) (name : String) :
    (fieldsValue fields).get? name = (fields.find? (·.1 == name)).map (·.2) := by
  rw [fieldsValue, Value.get?, Value.find?, List.find?_map, Option.map_map]
  rfl

theorem keepsVariable_variableBody {v : Value} (isVariable : IsVariable v) : KeepsVariable v (variableBody v) := by
  obtain ⟨key, has⟩ := isVariable
  have field (name : String) : (variableBody v).get? name = _ := get?_fieldsValue _ name
  rw [has, Option.getD_some] at field
  refine ⟨?_, ?_, ?_, ?_, ?_, ?_, ?_⟩
  · rw [field, has]
    rfl
  · rw [field]
    rfl
  · rw [field]
    rfl
  · rw [field]
    rfl
  · rw [field]
    rfl
  · rw [field, variableFields]
    cases (v.get? "variable_type").filter (·.isGiven) with
    | none => rfl
    | some kind => rfl
  · intro name other
    simp only [variableNames, List.mem_cons, List.not_mem_nil, or_false, not_or] at other
    obtain ⟨key', value, guarded, masked, scope, kind⟩ := other
    rw [field, variableFields]
    simp [Ne.symm key', Ne.symm value, Ne.symm guarded, Ne.symm masked, Ne.symm scope,
      Ne.symm kind]

/-- Whether all projects have a runner. -/
def isShared (v : Value) : Bool :=
  ((v.get? "is_shared").filter (·.isGiven)).isSome

/-- What is sent for a runner. -/
def runnerBody (v : Value) : Value :=
  fieldsValue [("runner_id", (v.get? "id").getD .null)]

/-! ## One item -/

section Items

variable {client : Client σ} {session : Session σ}

theorem run_submit (client : Client σ) (path : String) (fields : List (String × Value)) (session : Session σ) :
    (client.submit .post path fields).run session =
      ((client.posted path (fieldsValue fields) session.network).1.map fun _ => (),
        session.sent [client.post path (fieldsValue fields)]
          (client.posted path (fieldsValue fields) session.network).2) := by
  have sent : (client.send .post path none (some (fieldsValue fields))).run session =
      ((client.posted path (fieldsValue fields) session.network).1,
        session.sent [client.post path (fieldsValue fields)]
          (client.posted path (fieldsValue fields) session.network).2) := client.run_send _ _ _ _ session
  generalize client.posted path (fieldsValue fields) session.network = answer at sent ⊢
  rw [fieldsValue] at sent
  rw [submit, run_bind, sent]
  cases answer.1 with
  | error fault => rfl
  | ok response => rfl

/-- A part that comes to a value or to a refusal comes to a value where a refusal is one. -/
theorem run_orRefusal_of_run {part : Exchange σ α} {outcome : Except Fault α} {after : Session σ}
    (ran : part.run session = (outcome, after)) (refuses : ∀ fault, outcome = .error fault → fault.isRefusal = true) :
    (orRefusal part).run session = (.ok outcome, after) := by
  refine Ensures.run_eq (.tryCatch (.bind ?_))
  rw [Ensures, ran]
  cases outcome with
  | ok a => exact .pure rfl
  | error fault =>
      change Ensures (if fault.isRefusal = true then _ else _) _ _ _
      rw [if_pos (refuses fault rfl)]
      exact .pure rfl

/-- What is handed over is taken if its post succeeds; in either case something is recorded. -/
theorem run_handOver_of_refuses {path : String} {fields : List (String × Value)} (success : String)
    (failure : Fault → String)
    (refuses : ∀ fault, (client.posted path (fieldsValue fields) session.network).1 = .error fault →
      fault.isRefusal = true) :
    ∃ log, (do
      match ← orRefusal (client.submit .post path fields) with
      | .ok _ =>
        report .info success
        return true
      | .error fault =>
        report .warning (failure fault)
        return false : Exchange σ Bool).run session =
      (.ok (client.posted path (fieldsValue fields) session.network).1.isOk,
        { session.sent [client.post path (fieldsValue fields)]
            (client.posted path (fieldsValue fields) session.network).2 with log }) := by
  have sent := client.run_submit path fields session
  rcases came : client.posted path (fieldsValue fields) session.network with ⟨fault | response, network⟩
  · rw [came] at sent refuses
    rw [run_bind, run_orRefusal_of_run sent (by rintro fault' ⟨⟩; exact refuses fault rfl)]
    exact ⟨_, rfl⟩
  · rw [came] at sent
    rw [run_bind, run_orRefusal_of_run sent (by rintro fault' ⟨⟩)]
    exact ⟨_, rfl⟩

theorem run_copyVariable_of_refuses {target : String} {v : Value} (isVariable : IsVariable v)
    (refuses : ∀ fault, (client.posted (projectPath target ++ "/variables") (variableBody v) session.network).1 =
      .error fault → fault.isRefusal = true) :
    ∃ log, (client.copyVariable target v).run session =
      (.ok (client.posted (projectPath target ++ "/variables") (variableBody v) session.network).1.isOk,
        { session.sent [client.post (projectPath target ++ "/variables") (variableBody v)]
            (client.posted (projectPath target ++ "/variables") (variableBody v) session.network).2 with log }) := by
  obtain ⟨key, has⟩ := isVariable
  obtain ⟨entries, rfl⟩ := exists_mapping has
  have same : Value.find? "key" entries = some key := has
  rw [variableBody, has, Option.getD_some] at refuses ⊢
  rw [copyVariable, item, same, run_bind, run_pure]
  exact run_handOver_of_refuses _ _ refuses

/-- A runner that all projects have is passed over. -/
theorem run_enableRunner_of_isShared {target : String} {v : Value} (isRunner : IsRunner v)
    (shared : isShared v = true) : (client.enableRunner target v).run session = (.ok false, session) := by
  obtain ⟨⟨entries, rfl⟩, -⟩ := isRunner
  have given : ((Value.find? "is_shared" entries).filter (·.isGiven)).isSome = true := shared
  rw [enableRunner, field, run_bind, run_pure]
  simp only
  rw [if_pos given]
  rfl

theorem run_enableRunner_of_refuses {target : String} {v : Value} (isRunner : IsRunner v)
    (own : isShared v = false)
    (refuses : ∀ fault, (client.posted (projectPath target ++ "/runners") (runnerBody v) session.network).1 =
      .error fault → fault.isRefusal = true) :
    ∃ log, (client.enableRunner target v).run session =
      (.ok (client.posted (projectPath target ++ "/runners") (runnerBody v) session.network).1.isOk,
        { session.sent [client.post (projectPath target ++ "/runners") (runnerBody v)]
            (client.posted (projectPath target ++ "/runners") (runnerBody v) session.network).2 with log }) := by
  obtain ⟨⟨entries, rfl⟩, enough⟩ := isRunner
  have ungiven : ((Value.find? "is_shared" entries).filter (·.isGiven)).isSome = false := own
  obtain ⟨number, has⟩ : ∃ number, (Value.mapping entries).get? "id" = some number := by
    refine enough.resolve_left ?_
    rintro ⟨shared, found, given⟩
    rw [isShared, found, Option.filter, if_pos given] at own
    cases own
  have same : Value.find? "id" entries = some number := has
  rw [runnerBody, has, Option.getD_some] at refuses ⊢
  rw [enableRunner, field, run_bind, run_pure]
  simp only [ungiven, Bool.false_eq_true, if_false]
  rw [item, same, run_bind, run_pure]
  exact run_handOver_of_refuses _ _ refuses

end Items

/-! ## All items -/

/-- What is done with an item hands it over: it is passed over, or its data is posted. -/
structure Hands (client : Client σ) (take : Value → Exchange σ Bool) (path : String) (own : Value → Bool)
    (body : Value → Value) (v : Value) : Prop where
  /-- Nothing happens to an item that is passed over. -/
  passes : own v = false → ∀ session, (take v).run session = (.ok false, session)
  /-- Of any other item the data is posted, and the item is taken if that succeeds. -/
  sends : own v = true → ∀ session : Session σ,
    (∀ fault, (client.posted path (body v) session.network).1 = .error fault → fault.isRefusal = true) →
    ∃ log, (take v).run session = (.ok (client.posted path (body v) session.network).1.isOk,
      { session.sent [client.post path (body v)] (client.posted path (body v) session.network).2 with log })

section Lists

variable {client : Client σ} {path : String}

/-- Items are handed over one after the other, whatever becomes of those before. -/
theorem handsOver_countTaken {take : Value → Exchange σ Bool} {own : Value → Bool} {body : Value → Value}
    {items : List Value} (hands : ∀ v ∈ items, client.Hands take path own body v) (session : Session σ) :
    client.HandsOver (countTaken take items) session [] session.network path ((items.filter own).map body) := by
  induction items generalizing session with
  | nil => exact fun _ => ⟨session.log, by rw [countTaken]; simp [Session.sent, posts, run_pure]⟩
  | cons v rest induction =>
      obtain ⟨first, others⟩ := List.forall_mem_cons.mp hands
      intro refuses
      rw [countTaken, run_bind]
      cases mine : own v with
      | false =>
          rw [List.filter_cons_of_neg (by simp [mine])] at refuses ⊢
          obtain ⟨log, ran⟩ := induction others session refuses
          rw [first.passes mine session]
          simp only
          rw [run_bind, ran]
          exact ⟨log, by simp [run_pure]⟩
      | true =>
          rw [List.filter_cons_of_pos mine, List.map_cons] at refuses ⊢
          obtain ⟨log, ran⟩ := first.sends mine session fun fault failed => refuses fault (by simp [posts, failed])
          rw [ran]
          simp only
          obtain ⟨log', ran'⟩ := induction others
            { session.sent [client.post path (body v)] (client.posted path (body v) session.network).2 with log }
            fun fault failed => refuses fault (by simp [posts]; exact .inr failed)
          rw [run_bind, ran']
          refine ⟨log', ?_⟩
          cases taken : (client.posted path (body v) session.network).1.isOk with
          | true => simp [run_pure, posts, taken, Session.sent, Nat.add_comm]
          | false => simp [run_pure, posts, taken, Session.sent]

theorem hands_copyVariable (client : Client σ) (target : String) {v : Value} (isVariable : IsVariable v) :
    client.Hands (client.copyVariable target) (projectPath target ++ "/variables") (fun _ => true) variableBody v where
  passes := nofun
  sends _ _ := run_copyVariable_of_refuses isVariable

theorem hands_enableRunner {target : String} {v : Value} (isRunner : IsRunner v) :
    client.Hands (client.enableRunner target) (projectPath target ++ "/runners") (!isShared ·) runnerBody v where
  passes shared _ := run_enableRunner_of_isShared isRunner (by simpa using shared)
  sends own _ := run_enableRunner_of_refuses isRunner (by simpa using own)

/-- What is handed over behind requests that are read is handed over behind them. -/
theorem HandsOver.bind {part : Exchange σ α} {next : α → Exchange σ Nat} {session : Session σ} {a : α}
    {reads : List Request} {network : σ} {log : List Log.Entry} {bodies : List Value}
    (ran : part.run session = (.ok a, { session.sent reads network with log }))
    (hands : client.HandsOver (next a) { session.sent reads network with log } [] network path bodies) :
    client.HandsOver (part >>= next) session reads network path bodies := by
  intro refuses
  obtain ⟨log', ran'⟩ := hands refuses
  refine ⟨log', ?_⟩
  rw [run_bind, ran]
  simp only
  rw [ran']
  simp [Session.sent]

theorem HandsOver.report {next : Exchange σ Nat} {bodies : List Value}
    (hands : ∀ session, client.HandsOver next session [] session.network path bodies) (level : Log.Level)
    (message : String) (session : Session σ) :
    client.HandsOver (do Client.report level message; next) session [] session.network path bodies :=
  fun refuses => hands { session with log := session.log ++ [⟨level, message⟩] } refuses

/-- On a network that only answers or is not reached, posts come to a success or to a refusal. -/
theorem Plain.isRefusal_of_mem_posts (plain : client.Plain) (path : String) (bodies : List Value) (network : σ) :
    ∀ fault, .error fault ∈ (client.posts path bodies network).1 → fault.isRefusal = true := by
  intro fault failed
  induction bodies generalizing network with
  | nil => cases failed
  | cons body rest induction =>
      rcases List.mem_cons.mp failed with first | later
      · exact isRefusal_of_settle (plain _ _) first.symm
      · exact induction _ later

end Lists

/-- Variables and runners are handed over one by one: whatever the posts come to, there is one for each variable, and
one for each runner that not all projects have, in the order in which the lists have them and to the target alone;
those that succeed are counted.  A post holds what the item holds. -/
theorem handovers_independent (client : Client σ) (source target : String) (session : Session σ) :
    (∀ pages network, client.Lists (projectPath source ++ "/variables") [] session.network pages network →
      (∀ v ∈ Page.items pages, IsVariable v) →
      client.HandsOver (client.copyVariables source target) session
        (client.pageRequests (projectPath source ++ "/variables") [] pages) network
        (projectPath target ++ "/variables") ((Page.items pages).map variableBody)) ∧
    (∀ pages network, client.Lists (projectPath source ++ "/runners") [] session.network pages network →
      (∀ v ∈ Page.items pages, IsRunner v) →
      client.HandsOver (client.enableRunners source target) session
        (client.pageRequests (projectPath source ++ "/runners") [] pages) network
        (projectPath target ++ "/runners") (((Page.items pages).filter (!isShared ·)).map runnerBody)) ∧
    (∀ v, IsVariable v → KeepsVariable v (variableBody v)) ∧
    ∀ v number, v.get? "id" = some number → runnerBody v = .mapping [(.text "runner_id", number)] := by
  refine ⟨?_, ?_, fun v isVariable => keepsVariable_variableBody isVariable, ?_⟩
  · intro pages network lists areVariables
    have read := run_list rfl lists
    refine HandsOver.bind read ?_
    have each (session : Session σ) := handsOver_countTaken
      (fun v known => client.hands_copyVariable target (areVariables v known)) session
    simp only [List.filter_true] at each
    split
    · exact .report each _ _ _
    · exact each _
  · intro pages network lists areRunners
    have read := run_list rfl lists
    refine HandsOver.bind read ?_
    exact handsOver_countTaken (fun v known => hands_enableRunner (areRunners v known)) _
  · intro v number numbered
    rw [runnerBody, numbered]
    rfl

/-- Three variables on two pages, of which the host refuses the first one and is not reached for the last one; and two
runners, of which all projects have one. -/
theorem handovers_independent_amid_failures :
    ∃ (client : Client (List Response)) (session session' : Session (List Response)) (pages pages' : List Page)
      (network network' : List Response),
      client.Lists (projectPath "t" ++ "/variables") [] session.network pages network ∧
      (∀ v ∈ Page.items pages, IsVariable v) ∧
      client.Lists (projectPath "t" ++ "/runners") [] session'.network pages' network' ∧
      (∀ v ∈ Page.items pages', IsRunner v) ∧
      (∀ bodies network fault, .error fault ∈ (client.posts (projectPath "p" ++ "/variables") bodies network).1 →
        fault.isRefusal = true) ∧
      (∃ log, (client.copyVariables "t" "p").run session = (.ok 1, { session.sent
        (client.pageRequests (projectPath "t" ++ "/variables") [] pages ++
          ((Page.items pages).map variableBody).map (client.post (projectPath "p" ++ "/variables"))) [] with log })) ∧
      (((Page.items pages).map variableBody).map (client.post (projectPath "p" ++ "/variables"))).length = 3 ∧
      (∃ log, (client.enableRunners "t" "p").run session' = (.ok 1, { session'.sent
        (client.pageRequests (projectPath "t" ++ "/runners") [] pages' ++
          [client.post (projectPath "p" ++ "/runners") (.mapping [(.text "runner_id", .int 5)])]) [] with log })) := by
  let named (key : String) : Value := .mapping [(.text "key", .text key)]
  let shared : Value := .mapping [(.text "id", .int 1), (.text "is_shared", .bool true)]
  let own : Value := .mapping [(.text "id", .int 5)]
  let page₁ := pageOf "2" "[\x7b\"key\":\"A\"\x7d,\x7b\"key\":\"B\"\x7d]" (.list [named "A", named "B"])
  let page₂ := pageOf "" "[\x7b\"key\":\"C\"\x7d]" (.list [named "C"])
  let page₃ := pageOf "" "[\x7b\"id\":1,\"is_shared\":true\x7d,\x7b\"id\":5\x7d]" (.list [shared, own])
  let refusal : Response := { status := 400 }
  let success : Response := { status := 201 }
  let client : Client (List Response) := { token := "t", address := "/api", transport := queue }
  let session : Session (List Response) := ⟨[page₁.response, page₂.response, refusal, success], [], [], []⟩
  let session' : Session (List Response) := ⟨[page₃.response, success], [], [], []⟩
  have read₁ : Data.Json.read page₁.response.text = .ok page₁.data := by cbv
  have read₂ : Data.Json.read page₂.response.text = .ok page₂.data := by cbv
  have read₃ : Data.Json.read page₃.response.text = .ok page₃.data := by cbv
  have lists : client.Lists (projectPath "t" ++ "/variables") [] session.network [page₁, page₂]
      [refusal, success] :=
    ⟨.more ⟨rfl, rfl, read₁⟩ (by cbv) (.last ⟨rfl, rfl, read₂⟩ (by cbv)), by decide⟩
  have lists' : client.Lists (projectPath "t" ++ "/runners") [] session'.network [page₃] [success] :=
    ⟨.last ⟨rfl, rfl, read₃⟩ (by cbv), by decide⟩
  have areVariables : ∀ v ∈ Page.items [page₁, page₂], IsVariable v := by
    change ∀ v ∈ [named "A", named "B", named "C"], IsVariable v
    simp [named, IsVariable, Value.get?, Value.find?]
  have areRunners : ∀ v ∈ Page.items [page₃], IsRunner v := by
    change ∀ v ∈ [shared, own], IsRunner v
    simp [shared, own, IsRunner, Value.get?, Value.find?]
  have plain : client.Plain := by
    intro request network failure came
    cases network with
    | nil => cases came
    | cons response rest => cases came
  have refuses (path : String) := plain.isRefusal_of_mem_posts path
  obtain ⟨copied, -⟩ := handovers_independent client "t" "p" session
  obtain ⟨-, enabled, -⟩ := handovers_independent client "t" "p" session'
  obtain ⟨log, ran⟩ := copied _ _ lists areVariables (refuses _ _ _)
  obtain ⟨log', ran'⟩ := enabled _ _ lists' areRunners (refuses _ _ _)
  exact ⟨client, session, session', _, _, _, _, lists, areVariables, lists', areRunners, refuses _, ⟨log, ran⟩, rfl,
    log', ran'⟩

end Client

end Stencil.Gitlab
