import Stencil.Proofs.Outcome
import Stencil.Proofs.Template.Interpreter

/-!
# Expressions and terms

The reader of terms and the direct reader of expressions take the same bodies, and what they read has the
same value wherever a page has bound its numbered dot to the dot of the expression.
-/

namespace Stencil.Template.Direct

/-- The environment in which the page of a project runs once it has bound some dots. -/
def environment (p : Project.Parameters) (dots : List (Nat × Value)) : Environment :=
  ⟨builtins, p.name.toList, p.port, dots⟩

/-! ## Calls -/

theorem find?_eq_some_of_nodup {α κ : Type} [DecidableEq κ] (key : α → κ) {items : List α} {a : α}
    (distinct : (items.map key).Nodup) (member : a ∈ items) :
    items.find? (fun b => key b = key a) = some a := by
  induction items with
  | nil => cases member
  | cons b rest induction =>
      simp only [List.map_cons, List.nodup_cons] at distinct
      by_cases same : key b = key a
      · rcases List.mem_cons.mp member with rfl | later
        · simp
        · have clash : key b ∈ rest.map key := same ▸ List.mem_map_of_mem later
          exact absurd clash distinct.1
      · have later : a ∈ rest := by
          rcases List.mem_cons.mp member with rfl | later
          · exact absurd rfl same
          · exact later
        rw [List.find?_cons_of_neg (by simpa using same)]
        exact induction distinct.2 later

/-- A name that a page can only take for that of a function. -/
private def isUnshadowed (name : List Char) : Bool :=
  name.head? ≠ some '_' && !(["True".toList, "False".toList, "none".toList, "None".toList].contains name) &&
    (Field.ofWord? name).isNone

private theorem isUnshadowed_builtin : ∀ f ∈ builtins, isUnshadowed f.name.toList = true := by
  decide

private theorem shadow?_eq_none (env : Environment) {name : List Char}
    (unshadowed : isUnshadowed name = true) : env.shadow? name = none := by
  simp only [isUnshadowed, Bool.and_eq_true, decide_eq_true_eq, Bool.not_eq_true',
    List.contains_eq_mem, decide_eq_false_iff_not, List.mem_cons, List.not_mem_nil, or_false,
    not_or, Option.isNone_iff_eq_none] at unshadowed
  obtain ⟨⟨head, notTrue, notFalse, notLower, notUpper⟩, noField⟩ := unshadowed
  have noDot : env.dots.find? (fun binding => dotName binding.1 = name) = none := by
    rw [List.find?_eq_none]
    intro binding _ same
    apply head
    rw [← of_decide_eq_true same]
    rfl
  rw [Environment.shadow?, if_neg notTrue, if_neg notFalse, if_neg (not_or.mpr ⟨notLower, notUpper⟩),
    noDot, noField]
  rfl

private theorem nodup_names : (builtins.map (·.name.toList)).Nodup := by
  decide

private theorem nodup_calleeNames :
    (builtins.reverse.map fun f => calleeName f.name.toList).Nodup := by
  decide

/-- In a page the name of a function at hand stands for this function. -/
theorem call_eq_of_mem {env : Environment} (atHand : env.functions = builtins) {f : Function}
    (member : f ∈ builtins) (args : List Value) : env.call f.name.toList args = f.call args := by
  have callee : callee? builtins f.name.toList = some f :=
    find?_eq_some_of_nodup (fun g : Function => calleeName g.name.toList) nodup_calleeNames
      (List.mem_reverse.mpr member)
  rw [Environment.call, shadow?_eq_none _ (isUnshadowed_builtin f member), atHand]
  simp only [callee]

theorem call_toOption (p : Project.Parameters) (dots : List (Nat × Value)) {name : List Char}
    (known : hasFunction builtins name = true) (args : List Value) :
    ((environment p dots).call name args).toOption = invoke name args := by
  obtain ⟨f, member, same⟩ := List.any_eq_true.mp known
  obtain rfl : f.name.toList = name := of_decide_eq_true same
  have found : builtins.find? (fun g => g.name.toList = f.name.toList) = some f :=
    find?_eq_some_of_nodup (fun g : Function => g.name.toList) nodup_names member
  rw [call_eq_of_mem rfl member, invoke, found]
  rfl

/-! ## Meaning -/

/-- An expression and a term mean the same where the page has bound the dot under the number `binding`. -/
structure Means (p : Project.Parameters) (binding : Nat) (e : Expr) (t : Term) : Prop where
  /-- They have the same value. -/
  value : ∀ dots, (t.eval (environment p dots)).toOption =
    e.value p ((environment p dots).dot binding)
  /-- The numerals of one are numbers if those of the other are. -/
  sound : ∀ place, (t.fault? place).isNone = e.isSound

/-- Expressions and terms mean the same, one by one. -/
structure MeansAll (p : Project.Parameters) (binding : Nat) (es : List Expr) (ts : List Term) :
    Prop where
  /-- They have the same values. -/
  values : ∀ dots, (Term.evalAll (environment p dots) ts).toOption =
    Expr.values p ((environment p dots).dot binding) es
  /-- The numerals of these are numbers if those of the others are. -/
  sound : (Term.faultOf? ts).isNone = Expr.areSound es

variable {p : Project.Parameters} {binding : Nat}

theorem MeansAll.nil : MeansAll p binding [] [] where
  values dots := by rw [Term.evalAll, Expr.values]; rfl
  sound := by rw [Term.faultOf?, Expr.areSound]; rfl

theorem MeansAll.cons {e : Expr} {t : Term} {es : List Expr} {ts : List Term}
    (first : Means p binding e t) (others : MeansAll p binding es ts) :
    MeansAll p binding (e :: es) (t :: ts) where
  values dots := by
    simp only [Term.evalAll, Expr.values, toOption_bind, first.value, others.values]
    rfl
  sound := by
    rw [Term.faultOf?, Expr.areSound, ← first.sound .call, ← others.sound]
    cases t.fault? .call <;> rfl

theorem evalAll_append_singleton (env : Environment) (ts : List Term) (t : Term) :
    Term.evalAll env (ts ++ [t]) =
      (Term.evalAll env ts).bind fun values => (t.eval env).map fun last => values ++ [last] := by
  induction ts with
  | nil =>
      simp only [List.nil_append, Term.evalAll]
      cases t.eval env <;> rfl
  | cons first ts induction =>
      simp only [List.cons_append, Term.evalAll, induction]
      cases first.eval env with
      | error fault => rfl
      | ok v =>
          cases Term.evalAll env ts with
          | error fault => rfl
          | ok values => cases t.eval env <;> rfl

theorem faultOf?_append_singleton (ts : List Term) (t : Term) :
    (Term.faultOf? (ts ++ [t])).isNone =
      ((Term.faultOf? ts).isNone && (t.fault? .call).isNone) := by
  induction ts with
  | nil =>
      simp only [List.nil_append, Term.faultOf?]
      cases t.fault? .call <;> rfl
  | cons first ts induction =>
      simp only [List.cons_append, Term.faultOf?]
      cases first.fault? .call with
      | none => exact induction
      | some fault => rfl

theorem Means.call {name : List Char} (known : hasFunction builtins name = true)
    {es : List Expr} {ts : List Term} (args : MeansAll p binding es ts) :
    Means p binding (.call name es) (.call name ts) where
  value dots := by
    simp only [Term.eval, Expr.value, ← args.values dots]
    cases Term.evalAll (environment p dots) ts with
    | error fault => rfl
    | ok values => exact call_toOption p dots known values
  sound place := by
    simp only [Term.fault?, Expr.isSound]
    exact args.sound

theorem Means.piped {name : List Char} (known : hasFunction builtins name = true)
    {es : List Expr} {ts : List Term} {e : Expr} {t : Term}
    (args : MeansAll p binding es ts) (last : Means p binding e t) :
    Means p binding (.piped e name es) (.call name (ts ++ [t])) where
  value dots := by
    simp only [Term.eval, Expr.value, evalAll_append_singleton, ← args.values dots,
      ← last.value dots]
    cases Term.evalAll (environment p dots) ts with
    | error fault => rfl
    | ok values =>
        cases t.eval (environment p dots) with
        | error fault => rfl
        | ok v => exact call_toOption p dots known (values ++ [v])
  sound place := by
    simp only [Term.fault?, Expr.isSound, faultOf?_append_singleton, args.sound, last.sound]

/-! ## Numbers -/

private theorem isNumber_cons_of_ne_zero {c : Char} (digits : List Char) (nonzero : c ≠ '0') :
    isNumber (c :: digits) =
      ((c :: digits).length ≤ Text.mostDigits && Text.isAsciiDigit c) := by
  simp [isNumber, nonzero]

private theorem all_zero_of_dropWhile_eq_nil {digits : List Char}
    (dropped : digits.dropWhile (· = '0') = []) :
    digits.all (· = '0') = true ∧ digits.takeWhile (· = '0') = digits := by
  induction digits with
  | nil => simp
  | cons c rest induction =>
      by_cases zero : c = '0'
      · simp only [List.dropWhile_cons, zero, decide_true, if_true] at dropped
        simp [zero, induction dropped]
      · simp [zero] at dropped

private theorem not_all_zero_of_dropWhile {digits rest : List Char} {d : Char}
    (dropped : digits.dropWhile (· = '0') = d :: rest) : digits.all (· = '0') = false := by
  induction digits with
  | nil => simp at dropped
  | cons c rest induction =>
      by_cases zero : c = '0'
      · simp only [List.dropWhile_cons, zero, decide_true, if_true] at dropped
        simp [zero, induction dropped]
      · simp [zero]

private theorem isNone_tooLong (count : Nat) :
    (if Text.mostDigits < count then some (PageFault.tooLong count) else none).isNone =
      decide (count ≤ Text.mostDigits) := by
  split
  · simp only [Option.isNone_some, Bool.false_eq, decide_eq_false_iff_not]
    omega
  · simp only [Option.isNone_none, Bool.true_eq, decide_eq_true_eq]
    omega

/-- The digits that a page reads as a number are those of a number. -/
theorem digitsFault?_isNone (place : Place) (digits : List Char) :
    (digitsFault? place digits).isNone = isNumber digits := by
  cases digits with
  | nil => rfl
  | cons c digits =>
      by_cases zero : c = '0'
      · subst zero
        cases dropped : ('0' :: digits).dropWhile (· = '0') with
        | nil =>
            obtain ⟨all, taken⟩ := all_zero_of_dropWhile_eq_nil dropped
            simp only [digitsFault?, dropped, taken, isNumber, all]
            have ascii : Text.isAsciiDigit '0' = true := rfl
            simp only [ascii, Bool.not_true, Bool.false_eq_true, if_false, ne_eq, not_true_eq_false,
              isNone_tooLong, Bool.true_or, Bool.and_true]
        | cons d rest =>
            have notAll := not_all_zero_of_dropWhile dropped
            have head : ('0' :: digits).head?.any (fun c => Text.isAsciiDigit c && c ≠ '0') = false := by
              simp
            simp only [digitsFault?, dropped, isNumber, notAll, head, Bool.or_self, Bool.and_false]
            repeat' split
            all_goals first | rfl | simp_all
      · rw [isNumber_cons_of_ne_zero digits zero]
        by_cases ascii : Text.isAsciiDigit c = true
        · simp only [digitsFault?, ascii, Bool.not_true, Bool.false_eq_true, if_false, ne_eq, zero,
            not_false_eq_true, if_true, isNone_tooLong, Bool.and_true]
        · simp [digitsFault?, ascii]

/-! ## Operands -/

/-- What names refer to in an action where the dot of a number is bound, if one is. -/
def scopeOf (dot : Option Nat) : Scope := ⟨hasFunction builtins, dot⟩

/-- The expression that the direct reader completes from a point on. -/
abbrev finishFrom (dot : Option Nat) (outer : List Command) (inner : Command) (found : List Token) :
    Option Expr :=
  Reading.finish (hasFunction builtins) dot.isSome ⟨outer, inner⟩ found

variable {dot : Option Nat}

theorem isNumber_unsigned (place : Place) (written : List Char) :
    ((Term.numeral written).fault? place).isNone = (Expr.numeral written).isSound := by
  rw [Term.fault?, Expr.isSound, digitsFault?_isNone]

/-- A token is an operand for both readers or for none. -/
theorem atom_means (p : Project.Parameters) (dot : Option Nat) (token : Token) :
    match (scopeOf dot).atom token with
    | .ok t => ∃ e, atom? dot.isSome token = some e ∧ Means p (dot.getD 0) e t
    | .error _ => atom? dot.isSome token = none := by
  cases token with
  | quoted written =>
      simp only [Scope.atom, atom?]
      cases readLiteral (written.drop 1).dropLast with
      | error fault => rfl
      | ok s => exact ⟨.text s, rfl, fun _ => rfl, fun _ => rfl⟩
  | raw s => exact ⟨.text s, rfl, fun _ => rfl, fun _ => rfl⟩
  | numeral written => exact ⟨.numeral written, rfl, fun _ => rfl, (isNumber_unsigned · written)⟩
  | field names =>
      match names with
      | [name] =>
          cases dot with
          | some binding => rfl
          | none =>
              simp only [Scope.atom, scopeOf, atom?, Option.isSome_none, Bool.false_eq_true, if_false]
              cases Field.ofWord? name with
              | none => rfl
              | some f => exact ⟨.field f, rfl, fun _ => by cases f <;> rfl, fun _ => rfl⟩
      | [] => rfl
      | _ :: _ :: _ => rfl
  | dot =>
      cases dot with
      | none => rfl
      | some binding => exact ⟨.dot, rfl, fun _ => rfl, fun _ => rfl⟩
  | word name =>
      simp only [Scope.atom, atom?]
      cases Constant.ofWord? name with
      | none => rfl
      | some c => exact ⟨.constant c, rfl, fun _ => rfl, fun _ => rfl⟩
  | _ => rfl

/-- Whether a word at the head of a command names a function there. -/
def isCallee : Token → Bool
  | .word name => (Constant.ofWord? name).isNone
  | _ => false

/-- A command that takes the token at the head as an operand, if it is one. -/
def Awaits (c : Command) (found : List Token) : Prop :=
  c.takesOperand = true ∧ endsCommand found = false ∧
    ((∃ name args piped, c = .call name args piped) ∨
      ∀ token rest, found = token :: rest → isCallee token = false)

theorem token?_eq_of_awaits {c : Command} {token : Token} {rest : List Token}
    (awaits : Awaits c (token :: rest)) :
    c.token? (hasFunction builtins) dot.isSome token = (atom? dot.isSome token).bind c.operand? := by
  obtain ⟨takes, -, ⟨name, args, piped, rfl⟩ | noCallee⟩ := awaits
  · rfl
  · cases c with
    | value e => cases takes
    | call name args piped => rfl
    | start piped =>
        cases token with
        | word name =>
            have constant := noCallee _ _ rfl
            simp only [isCallee, Option.isNone_eq_false_iff, Option.isSome_iff_exists] at constant
            obtain ⟨c, found⟩ := constant
            simp [Command.token?, atom?, found]
        | _ => rfl

/-! ## Pipelines -/

/-- Whether a pipeline ends before the rest of the tokens. -/
def endsPipeline : List Token → Bool
  | [] => true
  | .closing :: _ => true
  | _ => false

/-- What has become of a command that both readers read up to its end: they refuse it, or the direct reader
stands behind a command that says what the term means. -/
def Completes (p : Project.Parameters) (dot : Option Nat) (ending : List Token → Bool)
    (outer : List Command) (start : Command) (found : List Token) :
    Except TermFault (Term × List Token) → Prop
  | .ok (t, rest) => rest.length ≤ found.length ∧ ending rest = true ∧
      ∃ c e, c.result? = some e ∧ Means p (dot.getD 0) e t ∧
        finishFrom dot outer start found = finishFrom dot outer c rest
  | .error _ => finishFrom dot outer start found = none

/-- What has become of the operands of a call that both readers read. -/
def TakesOperands (p : Project.Parameters) (dot : Option Nat) (outer : List Command)
    (name : List Char) (args : List Expr) (piped : Option Expr) (found : List Token) :
    Except TermFault (List Term × List Token) → Prop
  | .ok (ts, rest) => rest.length ≤ found.length ∧ endsCommand rest = true ∧
      ∃ es, MeansAll p (dot.getD 0) es ts ∧
        finishFrom dot outer (.call name args piped) found =
          finishFrom dot outer (.call name (args ++ es) piped) rest
  | .error _ => finishFrom dot outer (.call name args piped) found = none

/-- What has become of an operand that both readers read. -/
def TakesOperand (p : Project.Parameters) (dot : Option Nat) (outer : List Command) (c : Command)
    (found : List Token) : Except TermFault (Term × List Token) → Prop
  | .ok (t, rest) => rest.length < found.length ∧
      ∃ e, Means p (dot.getD 0) e t ∧
        finishFrom dot outer c found = (c.operand? e).bind fun c => finishFrom dot outer c rest
  | .error _ => finishFrom dot outer c found = none

/-- With `fuel` the readers of terms read what the direct reader reads, as far as the tokens are not too
many for the fuel. -/
structure ReadsDirectly (p : Project.Parameters) (dot : Option Nat) (fuel : Nat) : Prop where
  /-- A pipeline. -/
  pipeline : ∀ outer found, 4 * found.length + 3 ≤ fuel →
    Completes p dot endsPipeline outer (.start none) found ((scopeOf dot).readPipeline fuel found)
  /-- The stages behind a value. -/
  stages : ∀ outer c e t found, 4 * found.length + 1 ≤ fuel → endsCommand found = true →
    c.result? = some e → Means p (dot.getD 0) e t →
    Completes p dot endsPipeline outer c found ((scopeOf dot).readStages fuel t found)
  /-- A command, and the value that is handed to it. -/
  command : ∀ outer (piped : Option (Expr × Term)) found, 4 * found.length + 2 ≤ fuel →
    (∀ value ∈ piped, Means p (dot.getD 0) value.1 value.2) →
    Completes p dot endsCommand outer (.start (piped.map (·.1))) found
      ((scopeOf dot).readCommand fuel (piped.map (·.2)) found)
  /-- The operands of a call. -/
  operands : ∀ outer name args piped found, 4 * found.length + 1 ≤ fuel →
    TakesOperands p dot outer name args piped found ((scopeOf dot).readOperands fuel found)
  /-- One operand. -/
  operand : ∀ outer c found, 4 * found.length ≤ fuel → Awaits c found →
    TakesOperand p dot outer c found ((scopeOf dot).readOperand fuel found)

/-- Behind a command that is complete both readers go on with the stages behind it. -/
private theorem Completes.bind_stages {fuel : Nat} (reads : ReadsDirectly p dot fuel)
    {outer : List Command} {start : Command} {found : List Token}
    {first : Except TermFault (Term × List Token)} (enough : 4 * found.length + 1 ≤ fuel)
    (completes : Completes p dot endsCommand outer start found first) :
    Completes p dot endsPipeline outer start found
      (first >>= fun read => (scopeOf dot).readStages fuel read.1 read.2) := by
  cases first with
  | error fault => exact completes
  | ok read =>
      obtain ⟨shorter, ended, c, e, result, means, same⟩ := completes
      have further := reads.stages outer c e read.1 read.2 (by omega) ended result means
      simp only [ok_bind]
      cases stages : (scopeOf dot).readStages fuel read.1 read.2 with
      | error fault =>
          rw [stages] at further
          exact same.trans further
      | ok read' =>
          rw [stages] at further
          obtain ⟨shorter', ended', c', e', result', means', same'⟩ := further
          exact ⟨Nat.le_trans shorter' shorter, ended', c', e', result', means', same.trans same'⟩

private theorem pipeline_succ {fuel : Nat} (reads : ReadsDirectly p dot fuel)
    (outer : List Command) (found : List Token) (enough : 4 * found.length + 3 ≤ fuel + 1) :
    Completes p dot endsPipeline outer (.start none) found
      ((scopeOf dot).readPipeline (fuel + 1) found) := by
  have first : Completes p dot endsCommand outer (.start none) found
      ((scopeOf dot).readCommand fuel none found) :=
    reads.command outer none found (by omega) (by simp)
  rw [Scope.readPipeline]
  exact first.bind_stages reads (by omega)

private theorem stages_succ {fuel : Nat} (reads : ReadsDirectly p dot fuel) (outer : List Command)
    (c : Command) (e : Expr) (t : Term) (found : List Token)
    (enough : 4 * found.length + 1 ≤ fuel + 1) (ended : endsCommand found = true)
    (result : c.result? = some e) (means : Means p (dot.getD 0) e t) :
    Completes p dot endsPipeline outer c found ((scopeOf dot).readStages (fuel + 1) t found) := by
  match found with
  | [] => exact ⟨Nat.le_refl _, rfl, c, e, result, means, rfl⟩
  | .closing :: rest => exact ⟨Nat.le_refl _, rfl, c, e, result, means, rfl⟩
  | .bar :: rest =>
      simp only [List.length_cons] at enough
      have first : Completes p dot endsCommand outer (.start (some e)) rest
          ((scopeOf dot).readCommand fuel (some t) rest) :=
        reads.command outer (some (e, t)) rest (by omega) (by simpa using means)
      have start : finishFrom dot outer c (.bar :: rest) =
          finishFrom dot outer (.start (some e)) rest := by
        simp [Reading.finish, Reading.step, result]
      have further := first.bind_stages reads (by omega)
      rw [Scope.readStages]
      revert further
      cases (scopeOf dot).readCommand fuel (some t) rest >>= fun read =>
          (scopeOf dot).readStages fuel read.1 read.2 with
      | error fault => exact start.trans
      | ok read =>
          rintro ⟨shorter, ended', c', e', result', means', same⟩
          exact ⟨Nat.le_succ_of_le shorter, ended', c', e', result', means', start.trans same⟩

private theorem opening_succ {fuel : Nat} (reads : ReadsDirectly p dot fuel) (outer : List Command)
    (c : Command) (found : List Token) (enough : 4 * (found.length + 1) ≤ fuel + 1)
    (takes : c.takesOperand = true) :
    TakesOperand p dot outer c (.opening :: found)
      ((scopeOf dot).readOperand (fuel + 1) (.opening :: found)) := by
  have start : finishFrom dot outer c (.opening :: found) =
      finishFrom dot (c :: outer) (.start none) found := by
    simp [Reading.finish, Reading.step, takes]
  have inside := reads.pipeline (c :: outer) found (by omega)
  rw [Scope.readOperand]
  cases pipeline : (scopeOf dot).readPipeline fuel found with
  | error fault =>
      rw [pipeline] at inside
      exact start.trans inside
  | ok read =>
      obtain ⟨t, rest⟩ := read
      rw [pipeline] at inside
      obtain ⟨shorter, ended, c', e, result, means, same⟩ := inside
      match rest with
      | [] => exact start.trans same
      | .closing :: rest =>
          refine ⟨?_, e, means, start.trans (same.trans ?_)⟩
          · simp only [List.length_cons] at shorter ⊢
            omega
          · cases operand : c.operand? e <;>
              simp [Reading.finish, Reading.step, result, operand]

private theorem atom_succ {fuel : Nat} (outer : List Command) (c : Command) (token : Token)
    (found : List Token) (noParen : token ≠ .opening) (awaits : Awaits c (token :: found)) :
    TakesOperand p dot outer c (token :: found)
      ((scopeOf dot).readOperand (fuel + 1) (token :: found)) := by
  have start : finishFrom dot outer c (token :: found) =
      (c.token? (hasFunction builtins) dot.isSome token).bind fun c => finishFrom dot outer c found := by
    have continued := awaits.2.1
    cases token with
    | opening => exact absurd rfl noParen
    | closing => cases continued
    | bar => cases continued
    | _ => simp [Reading.finish, Reading.step, Option.bind_map, Function.comp_def]
  have read : (scopeOf dot).readOperand (fuel + 1) (token :: found) =
      ((scopeOf dot).atom token).map (·, found) := by
    cases token with
    | opening => exact absurd rfl noParen
    | _ => rw [Scope.readOperand]; nofun
  have atom := atom_means p dot token
  rw [token?_eq_of_awaits awaits] at start
  rw [read]
  revert atom
  cases (scopeOf dot).atom token with
  | error fault =>
      intro none
      rw [none] at start
      exact start
  | ok t =>
      rintro ⟨e, found, means⟩
      rw [found] at start
      exact ⟨Nat.lt_succ_self _, e, means, start⟩

private theorem operand_succ {fuel : Nat} (reads : ReadsDirectly p dot fuel) (outer : List Command)
    (c : Command) (found : List Token) (enough : 4 * found.length ≤ fuel + 1)
    (awaits : Awaits c found) :
    TakesOperand p dot outer c found ((scopeOf dot).readOperand (fuel + 1) found) := by
  match found with
  | [] => cases awaits.2.1
  | token :: rest =>
      by_cases paren : token = .opening
      · subst paren
        exact opening_succ reads outer c rest (by simpa using enough) awaits.1
      · exact atom_succ outer c token rest paren awaits

private theorem operands_succ {fuel : Nat} (reads : ReadsDirectly p dot fuel)
    (outer : List Command) (name : List Char) (args : List Expr) (piped : Option Expr)
    (found : List Token) (enough : 4 * found.length + 1 ≤ fuel + 1) :
    TakesOperands p dot outer name args piped found
      ((scopeOf dot).readOperands (fuel + 1) found) := by
  rw [Scope.readOperands]
  split
  · rename_i ended
    refine ⟨Nat.le_refl _, ended, [], .nil, ?_⟩
    rw [List.append_nil]
  · rename_i continued
    have awaits : Awaits (.call name args piped) found :=
      ⟨rfl, by simpa using continued, .inl ⟨name, args, piped, rfl⟩⟩
    have first := reads.operand outer (.call name args piped) found (by omega) awaits
    cases operand : (scopeOf dot).readOperand fuel found with
    | error fault =>
        rw [operand] at first
        exact first
    | ok read =>
        rw [operand] at first
        obtain ⟨shorter, e, means, same⟩ := first
        have further := reads.operands outer name (args ++ [e]) piped read.2 (by omega)
        simp only [ok_bind]
        cases operands : (scopeOf dot).readOperands fuel read.2 with
        | error fault =>
            rw [operands] at further
            exact same.trans further
        | ok read' =>
            rw [operands] at further
            obtain ⟨shorter', ended, es, meansAll, same'⟩ := further
            refine ⟨Nat.le_trans shorter' (Nat.le_of_lt shorter), ended, e :: es, .cons means meansAll, ?_⟩
            rw [List.append_assoc] at same'
            exact same.trans same'

/-- The direct reader refuses a command that ends at its beginning. -/
private theorem finish_start_of_endsCommand (outer : List Command) (piped : Option Expr)
    {found : List Token} (ended : endsCommand found = true) :
    finishFrom dot outer (.start piped) found = none := by
  match found with
  | [] => cases outer <;> rfl
  | .closing :: rest => cases outer <;> rfl
  | .bar :: rest => rfl

/-- A value refuses every token that could be an operand, or could begin one. -/
private theorem finish_value_of_continued (outer : List Command) (e : Expr) {found : List Token}
    (continued : endsCommand found = false) : finishFrom dot outer (.value e) found = none := by
  match found with
  | [] => cases continued
  | token :: rest =>
      have noToken : (Command.value e).token? (hasFunction builtins) dot.isSome token = none := by
        cases atom : atom? dot.isSome token <;> simp [Command.token?, atom, Command.operand?]
      cases token with
      | opening => rfl
      | closing => cases continued
      | bar => cases continued
      | _ => simp [Reading.finish, Reading.step, noToken]

/-- A value that is handed on refuses every token that names no function. -/
private theorem finish_start_of_not_callee (outer : List Command) (e : Expr) {token : Token}
    (found : List Token) (continued : endsCommand (token :: found) = false)
    (noCallee : isCallee token = false) :
    finishFrom dot outer (.start (some e)) (token :: found) = none := by
  have noToken : (Command.start (some e)).token? (hasFunction builtins) dot.isSome token = none := by
    cases token with
    | word name =>
        simp only [isCallee, Option.isNone_eq_false_iff, Option.isSome_iff_exists] at noCallee
        obtain ⟨c, constant⟩ := noCallee
        simp [Command.token?, constant, Command.operand?]
    | _ => simp [Command.token?, Command.operand?]
  cases token with
  | opening => rfl
  | closing => cases continued
  | bar => cases continued
  | _ => simp [Reading.finish, Reading.step, noToken]

/-- A call with the value that is handed to it means the same for both readers. -/
private theorem means_call {name : List Char} (known : hasFunction builtins name = true)
    {es : List Expr} {ts : List Term} (args : MeansAll p binding es ts)
    (piped : Option (Expr × Term)) (means : ∀ value ∈ piped, Means p binding value.1 value.2) :
    ∃ e, (Command.call name es (piped.map (·.1))).result? = some e ∧
      Means p binding e (.call name (ts ++ (piped.map (·.2)).toList)) := by
  cases piped with
  | none =>
      refine ⟨.call name es, rfl, ?_⟩
      rw [Option.map_none, Option.toList_none, List.append_nil]
      exact .call known args
  | some value => exact ⟨.piped value.1 name es, rfl, .piped known args (means value rfl)⟩

private theorem callee_succ {fuel : Nat} (reads : ReadsDirectly p dot fuel) (outer : List Command)
    (piped : Option (Expr × Term)) (name : List Char) (found : List Token)
    (enough : 4 * (found.length + 1) + 2 ≤ fuel + 1)
    (means : ∀ value ∈ piped, Means p (dot.getD 0) value.1 value.2)
    (callee : Constant.ofWord? name = none) :
    Completes p dot endsCommand outer (.start (piped.map (·.1))) (.word name :: found)
      ((scopeOf dot).readCommand (fuel + 1) (piped.map (·.2)) (.word name :: found)) := by
  simp only [Scope.readCommand, endsCommand, callee, Option.isNone_none, if_true,
    Bool.false_eq_true, if_false]
  by_cases known : hasFunction builtins name = true
  · have start : finishFrom dot outer (.start (piped.map (·.1))) (.word name :: found) =
        finishFrom dot outer (.call name [] (piped.map (·.1))) found := by
      simp [Reading.finish, Reading.step, Command.token?, callee, known]
    have operands := reads.operands outer name [] (piped.map (·.1)) found (by omega)
    rw [if_pos (show (scopeOf dot).isFunction name = true from known)]
    cases read : (scopeOf dot).readOperands fuel found with
    | error fault =>
        rw [read] at operands
        exact start.trans operands
    | ok read' =>
        rw [read] at operands
        obtain ⟨shorter, ended, es, args, same⟩ := operands
        obtain ⟨e, result, meansCall⟩ := means_call known args piped means
        exact ⟨Nat.le_succ_of_le shorter, ended, _, e, result, meansCall, start.trans same⟩
  · rw [if_neg (show ¬ (scopeOf dot).isFunction name = true from known)]
    simp [Completes, Reading.finish, Reading.step, Command.token?, callee, known]

private theorem value_succ {fuel : Nat} (reads : ReadsDirectly p dot fuel) (outer : List Command)
    (token : Token) (found : List Token) (enough : 4 * (found.length + 1) + 2 ≤ fuel + 1)
    (awaits : Awaits (.start none) (token :: found)) :
    Completes p dot endsCommand outer (.start none) (token :: found)
      ((scopeOf dot).readOperand fuel (token :: found) >>= fun read =>
        if endsCommand read.2 then .ok read else .error (.argument token)) := by
  have operand := reads.operand outer (.start none) (token :: found) (by simp; omega) awaits
  cases read : (scopeOf dot).readOperand fuel (token :: found) with
  | error fault =>
      rw [read] at operand
      exact operand
  | ok read' =>
      rw [read] at operand
      obtain ⟨shorter, e, means, same⟩ := operand
      simp only [ok_bind]
      split
      · rename_i ended
        exact ⟨Nat.le_of_lt shorter, ended, .value e, e, rfl, means, same⟩
      · rename_i continued
        exact same.trans (finish_value_of_continued outer e (by simpa using continued))

private theorem command_succ {fuel : Nat} (reads : ReadsDirectly p dot fuel) (outer : List Command)
    (piped : Option (Expr × Term)) (found : List Token) (enough : 4 * found.length + 2 ≤ fuel + 1)
    (means : ∀ value ∈ piped, Means p (dot.getD 0) value.1 value.2) :
    Completes p dot endsCommand outer (.start (piped.map (·.1))) found
      ((scopeOf dot).readCommand (fuel + 1) (piped.map (·.2)) found) := by
  cases ended : endsCommand found with
  | true =>
      have refused : (scopeOf dot).readCommand (fuel + 1) (piped.map (·.2)) found = .error .noValue := by
        rw [Scope.readCommand.eq_def]
        exact if_pos ended
      rw [refused]
      exact finish_start_of_endsCommand outer _ ended
  | false =>
      match found with
      | [] => cases ended
      | token :: found =>
          cases callee : isCallee token with
          | true =>
              cases token with
              | word name =>
                  exact callee_succ reads outer piped name found enough means
                    (Option.isNone_iff_eq_none.mp callee)
              | _ => cases callee
          | false =>
              have unfolded : (scopeOf dot).readCommand (fuel + 1) (piped.map (·.2)) (token :: found) =
                  if (piped.map (·.2)).isSome then .error (.notExecutable token)
                  else (scopeOf dot).readOperand fuel (token :: found) >>= fun read =>
                    if endsCommand read.2 then .ok read else .error (.argument token) := by
                cases token with
                | word name =>
                    simp only [isCallee] at callee
                    rw [Scope.readCommand.eq_def]
                    simp only [ended, callee, Bool.false_eq_true, if_false]
                | closing => cases ended
                | bar => cases ended
                | _ => rfl
              rw [unfolded]
              cases piped with
              | some value => exact finish_start_of_not_callee outer value.1 found ended callee
              | none =>
                  refine value_succ reads outer token found enough ⟨rfl, ended, .inr ?_⟩
                  rintro _ _ ⟨⟩
                  exact callee

/-- Fuel for all tokens is enough for both readers to agree. -/
theorem readsDirectly (p : Project.Parameters) (dot : Option Nat) (fuel : Nat) :
    ReadsDirectly p dot fuel := by
  induction fuel with
  | zero =>
      constructor
      · intro outer found enough
        omega
      · intro outer c e t found enough
        omega
      · intro outer piped found enough
        omega
      · intro outer name args piped found enough
        omega
      · intro outer c found enough awaits
        match found with
        | [] => cases awaits.2.1
        | _ :: _ => simp at enough
  | succ fuel reads =>
      exact {
        pipeline := pipeline_succ reads
        stages := stages_succ reads
        command := command_succ reads
        operands := operands_succ reads
        operand := operand_succ reads }

/-! ## Bodies -/

/-- A body is a term for a page exactly if it is an expression, up to the numerals that are no numbers. -/
theorem read_means (p : Project.Parameters) (dot : Option Nat) (body : List Char) :
    match (scopeOf dot).read body with
    | .ok t => ∃ e, Means p (dot.getD 0) e t ∧
        expression? (hasFunction builtins) dot.isSome body = if e.isSound then some e else none
    | .error _ => expression? (hasFunction builtins) dot.isSome body = none := by
  cases lexed : tokens body with
  | error c =>
      rw [Scope.read, expression?, lexed]
      rfl
  | ok found =>
      have direct : expression? (hasFunction builtins) dot.isSome body =
          (finishFrom dot [] (.start none) found).bind fun e => if e.isSound then some e else none := by
        rw [expression?, lexed]
        rfl
      rw [Scope.read, lexed, direct]
      cases found with
      | nil => rfl
      | cons token rest =>
          have reads := (readsDirectly p dot _).pipeline [] (token :: rest) (Nat.le_succ _)
          simp only
          cases pipeline : (scopeOf dot).readPipeline (4 * (token :: rest).length + 4) (token :: rest) with
          | error fault =>
              rw [pipeline] at reads
              rw [reads]
              rfl
          | ok read =>
              obtain ⟨t, behind⟩ := read
              rw [pipeline] at reads
              obtain ⟨-, ended, c, e, result, means, same⟩ := reads
              rw [same]
              match behind with
              | [] =>
                  refine ⟨e, means, ?_⟩
                  simp [Reading.finish, result]
              | .closing :: _ => rfl

end Stencil.Template.Direct
