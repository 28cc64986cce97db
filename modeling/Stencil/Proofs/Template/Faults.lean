import Mathlib
import Stencil.Materialize
import Stencil.Proofs.Template.Printing
import Stencil.Proofs.Template.Reading

/-!
# Faults that are none of the template

A run makes calls one after the other, and fails as the first of them does that has no value.  Of the
functions at hand only the printing of a format can fail in a way that is not taken for a fault of the
template.
-/

namespace Stencil.Template

variable {α β : Type}

/-! ## The calls of a run -/

/-- A call that a run makes. -/
structure Call where
  /-- What names stand for. -/
  env : Environment
  /-- The name of the function. -/
  function : List Char
  /-- The arguments. -/
  args : List Value

/-- What comes of a call. -/
def Call.result (c : Call) : Except CallFault Value :=
  c.env.call c.function c.args

/-- The calls that are made behind a step, which has to have a value. -/
def callsBehind (step : Except CallFault α) (next : α → List Call) : List Call :=
  match step with
  | .ok a => next a
  | .error _ => []

mutual

/-- The calls that are made for the value of an expression. -/
def Term.calls (env : Environment) : Term → List Call
  | .call function args =>
    Term.callsAll env args ++ callsBehind (Term.evalAll env args) fun values => [⟨env, function, values⟩]
  | _ => []

/-- The calls that are made for the values of expressions. -/
def Term.callsAll (env : Environment) : List Term → List Call
  | [] => []
  | t :: rest => t.calls env ++ callsBehind (t.eval env) fun _ => Term.callsAll env rest

end

mutual

/-- The calls that the run of a statement makes. -/
def Statement.calls (env : Environment) : Statement → List Call
  | .data _ => []
  | .output t => t.calls env
  | .assign _ t => t.calls env
  | .branch arms otherwise =>
    Statement.callsArms env arms ++ callsBehind (Statement.runArms env arms) fun result =>
      if result.isSome then [] else Statement.callsAll env otherwise

/-- The calls that the run of some statements makes. -/
def Statement.callsAll (env : Environment) : List Statement → List Call
  | [] => []
  | s :: rest => s.calls env ++ callsBehind (s.run env) fun result => Statement.callsAll result.2 rest

/-- The calls that are made up to the first arm whose test holds, and in it. -/
def Statement.callsArms (env : Environment) : List (Term × List Statement) → List Call
  | [] => []
  | (test, body) :: rest =>
    test.calls env ++ callsBehind (test.eval env) fun v =>
      if v.isGiven then Statement.callsAll env body else Statement.callsArms env rest

end

/-- Whether calls account for a step: it fails as one of them does, and the value that it has otherwise is kept
to something. -/
structure Accounts (functions : List Function) (calls : List Call) (step : Except CallFault α)
    (keeps : α → Prop) : Prop where
  /-- The calls are made with the functions. -/
  made : ∀ call ∈ calls, call.env.functions = functions
  /-- The faults of the step are those of the calls. -/
  fails : ∀ fault, step = .error fault ↔ ∃ call ∈ calls, call.result = .error fault
  /-- The value is kept to. -/
  kept : ∀ a, step = .ok a → keeps a

namespace Accounts

variable {functions : List Function} {calls : List Call} {step : Except CallFault α} {keeps : α → Prop}
  {keeps' : β → Prop}

theorem value {a : α} (holds : keeps a) : Accounts functions [] (.ok a) keeps where
  made := nofun
  fails fault := by simp
  kept b same := by
    cases same
    exact holds

theorem call (env : Environment) (function : List Char) (args : List Value) :
    Accounts env.functions [⟨env, function, args⟩] (env.call function args) fun _ => True where
  made call known := by rw [List.mem_singleton.mp known]
  fails fault := by simp [Call.result]
  kept _ _ := trivial

theorem map (accounts : Accounts functions calls step keeps) {f : α → β}
    (holds : ∀ a, keeps a → keeps' (f a)) : Accounts functions calls (step.map f) keeps' where
  made := accounts.made
  fails fault := by
    rw [← accounts.fails]
    cases step <;> simp [Except.map]
  kept b same := by
    obtain ⟨a, value, rfl⟩ := map_eq_ok_iff.mp same
    exact holds a (accounts.kept a value)

theorem bindOk (accounts : Accounts functions calls step keeps) {f : α → β}
    (holds : ∀ a, keeps a → keeps' (f a)) : Accounts functions calls (step >>= fun a => .ok (f a)) keeps' := by
  have mapped := accounts.map holds
  cases step <;> exact mapped

theorem bind (accounts : Accounts functions calls step keeps) {next : α → Except CallFault β}
    {more : α → List Call} (later : ∀ a, keeps a → Accounts functions (more a) (next a) keeps') :
    Accounts functions (calls ++ callsBehind step more) (step >>= next) keeps' := by
  cases step with
  | error fault =>
      rw [callsBehind, List.append_nil]
      exact ⟨accounts.made, fun other => by rw [← accounts.fails, error_bind]; simp, nofun⟩
  | ok a =>
      have behind := later a (accounts.kept a rfl)
      have harmless : ∀ call ∈ calls, ∀ fault, call.result ≠ .error fault := by
        intro call known fault failed
        cases (accounts.fails fault).mpr ⟨call, known, failed⟩
      refine ⟨fun call known => ?_, fun fault => ?_, behind.kept⟩
      · rcases List.mem_append.mp known with before | after
        · exact accounts.made call before
        · exact behind.made call after
      · rw [ok_bind, behind.fails]
        constructor
        · rintro ⟨call, known, failed⟩
          exact ⟨call, List.mem_append_right _ known, failed⟩
        · rintro ⟨call, known, failed⟩
          rcases List.mem_append.mp known with before | after
          · exact absurd failed (harmless call before fault)
          · exact ⟨call, after, failed⟩

end Accounts

mutual

/-- The value of an expression fails as one of the calls does that are made for it. -/
theorem Term.accounts (env : Environment) :
    ∀ t : Term, Accounts env.functions (t.calls env) (t.eval env) fun _ => True
  | .text s => by simpa only [Term.calls, Term.eval] using .value trivial
  | .numeral written => by simpa only [Term.calls, Term.eval] using .value trivial
  | .field f => by simpa only [Term.calls, Term.eval] using .value trivial
  | .dot binding => by simpa only [Term.calls, Term.eval] using .value trivial
  | .constant c => by simpa only [Term.calls, Term.eval] using .value trivial
  | .call function args => by
      rw [Term.calls, Term.eval]
      exact (Term.accountsAll env args).bind fun values _ => .call env function values

theorem Term.accountsAll (env : Environment) :
    ∀ ts : List Term, Accounts env.functions (Term.callsAll env ts) (Term.evalAll env ts) fun _ => True
  | [] => by
      rw [Term.callsAll, Term.evalAll]
      exact .value trivial
  | t :: rest => by
      rw [Term.callsAll, Term.evalAll]
      exact (Term.accounts env t).bind fun v _ => (Term.accountsAll env rest).bindOk fun _ _ => trivial

end

mutual

/-- The run of a statement fails as one of the calls does that it makes, and keeps the functions. -/
theorem Statement.accounts (env : Environment) :
    ∀ s : Statement, Accounts env.functions (s.calls env) (s.run env) fun result =>
      result.2.functions = env.functions
  | .data s => by
      rw [Statement.calls, Statement.run]
      exact .value rfl
  | .output t => by
      rw [Statement.calls, Statement.run]
      exact (t.accounts env).map fun _ _ => rfl
  | .assign binding t => by
      rw [Statement.calls, Statement.run]
      exact (t.accounts env).map fun _ _ => rfl
  | .branch arms otherwise => by
      rw [Statement.calls, Statement.run]
      refine (Statement.accountsArms env arms).bind fun result holds => ?_
      cases result with
      | some result => exact .value (holds result rfl)
      | none => exact Statement.accountsAll env otherwise

theorem Statement.accountsAll (env : Environment) :
    ∀ ss : List Statement, Accounts env.functions (Statement.callsAll env ss) (Statement.runAll env ss)
      fun result => result.2.functions = env.functions
  | [] => by
      rw [Statement.callsAll, Statement.runAll]
      exact .value rfl
  | s :: rest => by
      rw [Statement.callsAll, Statement.runAll]
      refine (Statement.accounts env s).bind fun first same => ?_
      rw [← same]
      exact (Statement.accountsAll first.2 rest).bindOk fun _ holds => holds

theorem Statement.accountsArms (env : Environment) :
    ∀ arms : List (Term × List Statement),
      Accounts env.functions (Statement.callsArms env arms) (Statement.runArms env arms) fun result? =>
        ∀ result ∈ result?, result.2.functions = env.functions
  | [] => by
      rw [Statement.callsArms, Statement.runArms]
      exact .value nofun
  | (test, body) :: rest => by
      rw [Statement.callsArms, Statement.runArms]
      refine (test.accounts env).bind fun v _ => ?_
      split
      · refine (Statement.accountsAll env body).map fun result holds other same => ?_
        cases same
        exact holds
      · exact Statement.accountsArms env rest

end

/-! ## The functions at hand -/

/-- Whether a step fails only in ways that are taken for faults of the template. -/
def IsTame (step : Except CallFault α) : Prop :=
  ∀ fault, step = .error fault → fault.escapes = false

theorem isTame_ok (a : α) : IsTame (.ok a) := nofun

theorem isTame_error {fault : CallFault} (tame : fault.escapes = false) :
    IsTame (.error fault : Except CallFault α) := by
  intro other failed
  cases failed
  exact tame

theorem IsTame.bind {step : Except CallFault α} {next : α → Except CallFault β} (tame : IsTame step)
    (later : ∀ a, IsTame (next a)) : IsTame (step.bind next) := by
  cases step with
  | ok a => exact later a
  | error fault => exact isTame_error (tame fault rfl)

theorem isTame_lengthOf (v : Value) : IsTame (lengthOf v) := by
  cases v with
  | text s => exact isTame_ok _
  | list items => exact isTame_ok _
  | _ => exact isTame_error rfl

theorem isTame_itemAt (bytes : Bool) (items : List Value) (key : Value) : IsTame (itemAt bytes items key) := by
  unfold itemAt
  cases key.toInt? with
  | none => exact isTame_error rfl
  | some n =>
      dsimp only
      generalize (if n < 0 then n + items.length else n) = place
      split
      · exact isTame_error rfl
      · split
        · exact isTame_error rfl
        · cases items[place.toNat]? with
          | none => exact isTame_error rfl
          | some v => exact isTame_ok v

theorem isTame_itemOf (v : Value) (keys : List Value) : IsTame (itemOf v keys) := by
  induction keys generalizing v with
  | nil => exact isTame_ok v
  | cons key keys induction =>
      cases v with
      | text s => exact (isTame_itemAt _ _ _).bind induction
      | list items => exact (isTame_itemAt _ _ _).bind induction
      | _ => exact isTame_error rfl

theorem isTame_equalsAny (args : List Value) : IsTame (equalsAny args) := by
  match args with
  | [] => exact isTame_error rfl
  | [_] => exact isTame_error rfl
  | _ :: _ :: _ => exact isTame_ok _

theorem isTame_compared (c : Value.Comparison) (a b : Value) : IsTame (compared c a b) := by
  unfold compared
  split
  · exact isTame_ok _
  · exact isTame_error rfl

/-- Whether every call of a function fails only in ways that are taken for faults of the template. -/
def Function.IsTame (f : Function) : Prop :=
  ∀ args, Template.IsTame (f.run args)

theorem isTame_anyArity (name : String) (value : List Value → Value) : (anyArity name value).IsTame :=
  fun _ => isTame_ok _

theorem isTame_binary (name : String) {value : Value → Value → Except CallFault Value}
    (tame : ∀ a b, IsTame (value a b)) : (binary name value).IsTame := by
  intro args
  simp only [binary]
  split
  · exact tame _ _
  · exact isTame_ok _

theorem isTame_namingFunction (naming : Project.Naming) : (namingFunction naming).IsTame := by
  intro args
  simp only [namingFunction]
  split
  · exact isTame_ok _
  · exact isTame_error rfl
  · exact isTame_ok _

/-- The printing of a format. -/
def printing : Function :=
  ⟨"printf", { title := "_printf", required := ["fmt"], variadic := true }, printf⟩

theorem printing_mem_builtins : printing ∈ builtins := by
  simp [builtins, printing]

/-- All functions at hand but the printing of a format fail only in ways that are taken for faults of the
template. -/
theorem eq_printing_or_isTame {f : Function} (member : f ∈ builtins) : f = printing ∨ f.IsTame := by
  rcases List.mem_append.mp member with listed | naming
  · simp only [List.mem_cons, List.not_mem_nil, or_false] at listed
    rcases listed with rfl | rfl | rfl | rfl | rfl | rfl | rfl | rfl | rfl | rfl | rfl | rfl | rfl | rfl
    · exact .inr (isTame_anyArity _ _)
    · exact .inl rfl
    · exact .inr (isTame_anyArity _ _)
    · exact .inr fun args => isTame_lengthOf _
    · exact .inr fun args => isTame_itemOf _ _
    · exact .inr isTame_equalsAny
    · exact .inr (isTame_binary _ fun _ _ => isTame_ok _)
    · exact .inr (isTame_binary _ (isTame_compared _))
    · exact .inr (isTame_binary _ (isTame_compared _))
    · exact .inr (isTame_binary _ (isTame_compared _))
    · exact .inr (isTame_binary _ (isTame_compared _))
    · exact .inr (isTame_anyArity _ _)
    · exact .inr (isTame_anyArity _ _)
    · exact .inr fun args => isTame_ok _
  · obtain ⟨way, -, rfl⟩ := List.mem_map.mp naming
    exact .inr (isTame_namingFunction way)

theorem isTame_fault? {s : Signature} {given : Nat} {fault : CallFault} (refused : s.fault? given = some fault) :
    fault.escapes = false := by
  unfold Signature.fault? at refused
  split at refused
  · cases refused
    rfl
  · split at refused
    · cases refused
      rfl
    · cases refused

theorem Function.IsTame.call {f : Function} (tame : f.IsTame) (args : List Value) :
    Template.IsTame (f.call args) := by
  unfold Function.call
  split
  case h_1 fault refused => exact isTame_error (isTame_fault? refused)
  case h_2 => exact tame args

/-- Whether a call prints a format of which a directive asks for more than can be laid out. -/
def Call.IsOverstrained (c : Call) : Prop :=
  c.function = "printf".toList ∧ ∃ format args, c.args = .text format :: args ∧ Template.IsOverstrained format args

theorem escapes_printing_iff {args : List Value} :
    (∃ fault, printing.call args = .error fault ∧ fault.escapes = true) ↔
      ∃ format rest, args = .text format :: rest ∧ IsOverstrained format rest := by
  cases args with
  | nil => exact iff_of_false (fun ⟨fault, failed, escapes⟩ => by cases failed; cases escapes) (by simp)
  | cons v rest =>
      have called : printing.call (v :: rest) = printf (v :: rest) := by
        simp [Function.call, printing, Signature.fault?]
      rw [called]
      cases v with
      | text format =>
          have only : (∃ format' rest', Value.text format :: rest = .text format' :: rest' ∧
              IsOverstrained format' rest') ↔ Overflows (formatted format rest) := by
            rw [overflows_formatted_iff]
            constructor
            · rintro ⟨_, _, same, overstrained⟩
              cases same
              exact overstrained
            · exact fun overstrained => ⟨format, rest, rfl, overstrained⟩
          rw [only, printf]
          cases formatted format rest with
          | ok s => simp
          | error fault => simp [CallFault.escapes]
      | _ => exact iff_of_false (fun ⟨fault, failed, escapes⟩ => by cases failed; cases escapes) (by simp)

theorem calleeName_eq_printf {name : List Char} (same : calleeName printing.name.toList = calleeName name) :
    name = "printf".toList := by
  have printed : calleeName printing.name.toList = "printf".toList := by decide
  rw [printed, calleeName] at same
  split at same
  · cases same
  · exact same.symm

/-- A call escapes exactly if it prints a format that is overstrained. -/
theorem Call.escapes_iff {c : Call} (atHand : c.env.functions = builtins) :
    (∃ fault, c.result = .error fault ∧ fault.escapes = true) ↔ c.IsOverstrained := by
  constructor
  · rintro ⟨fault, failed, escapes⟩
    rw [Call.result, Environment.call] at failed
    split at failed
    · cases failed
      cases escapes
    · split at failed
      case h_1 f callee =>
        rw [atHand] at callee
        have member := List.mem_reverse.mp (List.mem_of_find?_eq_some callee)
        have named := List.find?_some callee
        rcases eq_printing_or_isTame member with rfl | tame
        · exact ⟨calleeName_eq_printf (of_decide_eq_true named), escapes_printing_iff.mp ⟨fault, failed, escapes⟩⟩
        · rw [tame.call c.args fault failed] at escapes
          cases escapes
      case h_2 => cases failed
  · rintro ⟨named, overstrained⟩
    have called := Direct.call_eq_of_mem atHand printing_mem_builtins c.args
    rw [Call.result, named]
    obtain ⟨fault, failed, escapes⟩ := escapes_printing_iff.mpr overstrained
    exact ⟨fault, called.trans failed, escapes⟩

/-! ## Rendering -/

/-- The calls that the rendering of a template makes. -/
def callsOf (functions : List Function) (p : Project.Parameters) (content : List Char) : List Call :=
  match toPage functions content with
  | .error _ => []
  | .ok page =>
    match page.nest with
    | .error _ => []
    | .ok statements => Statement.callsAll ⟨functions, p.name.toList, p.port, []⟩ statements

theorem render_eq_call_iff {functions : List Function} {p : Project.Parameters} {content : List Char}
    {fault : CallFault} : render functions p content = .error (.call fault) ↔
      ∃ call ∈ callsOf functions p content, call.result = .error fault := by
  unfold render callsOf
  cases toPage functions content with
  | error fault => simp
  | ok page =>
      dsimp only
      cases page.nest with
      | error fault => simp
      | ok statements =>
          dsimp only
          rw [← (Statement.accountsAll _ statements).fails]
          cases Statement.runAll ⟨functions, p.name.toList, p.port, []⟩ statements <;> simp

theorem functions_of_mem_callsOf {functions : List Function} {p : Project.Parameters} {content : List Char}
    {call : Call} (made : call ∈ callsOf functions p content) : call.env.functions = functions := by
  unfold callsOf at made
  split at made
  · cases made
  · split at made
    · cases made
    · exact (Statement.accountsAll _ _).made call made

private def codeStatement : Statement :=
  .output (.call "printf".toList [.text "%c".toList, .numeral "-1".toList])

private theorem toPage_code :
    toPage builtins "\x7b\x7bprintf \"%c\" -1\x7d\x7d".toList =
      .ok [.output (.call "printf".toList [.text "%c".toList, .numeral "-1".toList])] := by
  rw [toPage]
  cbv

private theorem formatted_code : formatted "%c".toList [.int (-1)] = .error .charRange := by
  cbv

private theorem run_code {env : Environment} (atHand : env.functions = builtins) :
    Statement.runAll env [codeStatement] = .error (.format .charRange) := by
  have number : numeralValue "-1".toList = -1 := by cbv
  have printed : env.call "printf".toList [.text "%c".toList, .int (-1)] =
      printf [.text "%c".toList, .int (-1)] := Direct.call_eq_of_mem atHand printing_mem_builtins _
  rw [printf, formatted_code] at printed
  simp only [codeStatement, Statement.runAll, Statement.run, Term.eval, Term.evalAll, number, ok_bind, Except.bind]
  rw [printed]
  rfl

end Stencil.Template
