import Stencil.Proofs.Outcome
import Stencil.Template.Compile

/-!
# The grammar of terms

The tokens of an action are a term exactly if they derive from a grammar of pipelines, commands and operands,
and a page spells the term as its derivation does: in call form, the value of a stage as the last argument of the
next one.  Tokens that derive from nothing are refused for what stands at some place among them.
-/

namespace Stencil.Template

/-! ## Call form -/

/-- The name of a function in call form; operators have names of their own there. -/
def spelledName (name : List Char) : List Char :=
  if name = "and".toList then "_and".toList
  else if name = "or".toList then "_or".toList
  else if name = "not".toList then "_not".toList
  else name

/-- A call in call form. -/
def callForm (name : List Char) (args : List (List Char)) : List Char :=
  spelledName name ++ '(' :: ", ".toList.intercalate args ++ [')']

theorem calleeName_eq_spelledName (name : List Char) : calleeName name = spelledName name := by
  unfold calleeName spelledName
  split
  · rename_i operator
    rcases operator with rfl | rfl | rfl <;> rfl
  · rename_i other
    simp only [not_or] at other
    rw [if_neg other.1, if_neg other.2.1, if_neg other.2.2]

theorem separated_eq_intercalate (texts : List (List Char)) : separated texts = ", ".toList.intercalate texts := by
  induction texts with
  | nil => rfl
  | cons first rest induction =>
      cases rest with
      | nil => simp [separated, List.intercalate]
      | cons next rest =>
          rw [separated, induction, List.intercalate_cons_cons, List.append_assoc]
          · rfl
          · nofun

theorem source_call (name : List Char) (args : List Term) :
    (Term.call name args).source = callForm name (Term.sources args) := by
  rw [Term.source, calleeName_eq_spelledName, separated_eq_intercalate, callForm]

theorem sources_append_singleton (args : List Term) (last : Term) :
    Term.sources (args ++ [last]) = Term.sources args ++ [last.source] := by
  induction args with
  | nil => rfl
  | cons first args induction => rw [List.cons_append, Term.sources, induction, Term.sources, List.cons_append]

namespace Scope

variable (scope : Scope)

/-! ## Derivations -/

/-- The tokens that are operands by themselves, each with its call form. -/
inductive Spells : Token → List Char → Prop
  | quoted {written s : List Char} :
      readLiteral (written.drop 1).dropLast = .ok s → Spells (.quoted written) (Text.quoted s)
  | raw {s : List Char} : Spells (.raw s) (Text.quoted s)
  | numeral {written : List Char} : Spells (.numeral written) written
  | name : scope.dot = none → Spells (.field ["Name".toList]) "Name".toList
  | port : scope.dot = none → Spells (.field ["Port".toList]) "Port".toList
  | dot {binding : Nat} : scope.dot = some binding → Spells .dot (dotName binding)
  | true : Spells (.word "true".toList) "true".toList
  | false : Spells (.word "false".toList) "false".toList
  | nil : Spells (.word "nil".toList) "none".toList

/-- Whether a word names a function that can be called; the words of the constants do not. -/
structure Callable (name : List Char) : Prop where
  known : scope.isFunction name = true
  free : name ∉ ["true".toList, "false".toList, "nil".toList]

/-- A part of the grammar. -/
inductive Part
  | operand
  | operands
  | command
  | pipeline

/-- Tokens derive from a part of the grammar, and stand for values with these call forms. -/
inductive Derives : Part → List Token → List (List Char) → Prop
  | atom {token : Token} {e : List Char} : scope.Spells token e → Derives .operand [token] [e]
  | group {inner : List Token} {e : List Char} :
      Derives .pipeline inner [e] → Derives .operand (.opening :: (inner ++ [.closing])) [e]
  | none : Derives .operands [] []
  | more {first others : List Token} {e : List Char} {es : List (List Char)} :
      Derives .operand first [e] → Derives .operands others es → Derives .operands (first ++ others) (e :: es)
  | value {tokens : List Token} {e : List Char} : Derives .operand tokens [e] → Derives .command tokens [e]
  | call {name : List Char} {args : List Token} {es : List (List Char)} :
      scope.Callable name → Derives .operands args es → Derives .command (.word name :: args) [callForm name es]
  | first {tokens : List Token} {e : List Char} : Derives .command tokens [e] → Derives .pipeline tokens [e]
  | stage {before args : List Token} {name e : List Char} {es : List (List Char)} :
      Derives .pipeline before [e] → scope.Callable name → Derives .operands args es →
        Derives .pipeline (before ++ .bar :: .word name :: args) [callForm name (es ++ [e])]

/-! ## Refusals -/

/-- Whether a command has to follow tokens: they are none, or a parenthesis or a bar is the last of them. -/
def Opens (before : List Token) : Prop :=
  ∀ last ∈ before.getLast?, last = .opening ∨ last = .bar

/-- Tokens are refused for what stands at a place among them.  A missing value is one that should stand there,
where the tokens may end, but nothing is looked for behind them in any other place. -/
inductive Blames : List Token → TermFault → Prop
  | noValue {before rest : List Token} :
      Opens before → endsCommand rest = true → Blames (before ++ rest) .noValue
  | unknownFunction {before rest : List Token} {name : List Char} :
      Opens before → Constant.ofWord? name = none → scope.isFunction name = false →
        Blames (before ++ .word name :: rest) (.unknownFunction name)
  | notExecutable {before rest : List Token} {token : Token} :
      (∀ name, token = .word name → Constant.ofWord? name ≠ none) → endsCommand (token :: rest) = false →
        Blames (before ++ .bar :: token :: rest) (.notExecutable token)
  | argument {before operand rest : List Token} {token : Token} {e : List Char} :
      Opens before → scope.Derives .operand (token :: operand) [e] → endsCommand rest = false →
        Blames (before ++ (token :: operand ++ rest)) (.argument token)
  | operand {before rest : List Token} {token : Token} {fault : TermFault} :
      token ≠ .opening → endsCommand (token :: rest) = false → scope.atom token = .error fault →
        Blames (before ++ token :: rest) fault
  | unclosed {before inner : List Token} {e : List Char} :
      scope.Derives .pipeline inner [e] → Blames (before ++ .opening :: inner) .unclosed
  | trailing {whole rest : List Token} {e : List Char} :
      scope.Derives .pipeline whole [e] → Blames (whole ++ .closing :: rest) (.trailing .closing)

/-! ## Tokens by themselves -/

variable {scope}

theorem ofWord?_eq_none_iff {name : List Char} :
    Constant.ofWord? name = none ↔ name ∉ ["true".toList, "false".toList, "nil".toList] := by
  unfold Constant.ofWord?
  repeat' split
  all_goals simp_all

theorem callable_iff {name : List Char} :
    scope.Callable name ↔ scope.isFunction name = true ∧ Constant.ofWord? name = none := by
  rw [ofWord?_eq_none_iff]
  exact ⟨fun callable => ⟨callable.known, callable.free⟩, fun both => ⟨both.1, both.2⟩⟩

theorem spells_constant {name : List Char} {c : Constant} (constant : Constant.ofWord? name = some c) :
    scope.Spells (.word name) c.source := by
  unfold Constant.ofWord? at constant
  split at constant
  · rename_i same
    cases constant
    exact same ▸ .true
  split at constant
  · rename_i same
    cases constant
    exact same ▸ .false
  split at constant
  · rename_i same
    cases constant
    exact same ▸ .nil
  · cases constant

theorem spells_field {name : List Char} {f : Field} (unbound : scope.dot = none)
    (field : Field.ofWord? name = some f) : scope.Spells (.field [name]) f.word.toList := by
  unfold Field.ofWord? at field
  split at field
  · rename_i same
    cases field
    exact same ▸ .name unbound
  split at field
  · rename_i same
    cases field
    exact same ▸ .port unbound
  · cases field

theorem spells_of_atom {token : Token} {t : Term} (read : scope.atom token = .ok t) :
    scope.Spells token t.source := by
  cases token with
  | quoted written =>
      simp only [atom] at read
      split at read
      · rename_i literal
        cases read
        exact .quoted literal
      · cases read
  | raw s =>
      cases read
      exact .raw
  | numeral written =>
      cases read
      exact .numeral
  | field names =>
      match names with
      | [] => cases read
      | _ :: _ :: _ => cases read
      | [name] =>
          simp only [atom] at read
          split at read
          · cases read
          rename_i unbound
          split at read
          · rename_i field
            cases read
            exact spells_field (by simpa using unbound) field
          · cases read
  | dot =>
      simp only [atom] at read
      split at read
      · rename_i bound
        cases read
        exact .dot bound
      · cases read
  | word name =>
      simp only [atom] at read
      split at read
      · rename_i constant
        cases read
        exact spells_constant constant
      · cases read
  | _ => cases read

theorem exists_atom_of_spells {token : Token} {e : List Char} (spells : scope.Spells token e) :
    ∃ t, scope.atom token = .ok t ∧ t.source = e := by
  cases spells with
  | quoted literal => exact ⟨_, by rw [atom, literal], rfl⟩
  | raw => exact ⟨_, rfl, rfl⟩
  | numeral => exact ⟨_, rfl, rfl⟩
  | name unbound => exact ⟨.field .name, by simp [atom, unbound, Field.ofWord?, Field.word], rfl⟩
  | port unbound => exact ⟨.field .port, by simp [atom, unbound, Field.ofWord?, Field.word], rfl⟩
  | dot bound => exact ⟨_, by rw [atom, bound], rfl⟩
  | true => exact ⟨_, rfl, rfl⟩
  | false => exact ⟨_, rfl, rfl⟩
  | nil => exact ⟨_, rfl, rfl⟩

/-! ## Reading -/

/-- Whether a pipeline ends before the rest of the tokens. -/
def EndsPipeline (rest : List Token) : Prop :=
  rest = [] ∨ ∃ more, rest = .closing :: more

theorem opens_concat {before : List Token} {last : Token} (opening : last = .opening ∨ last = .bar) :
    Opens (before ++ [last]) := by
  intro token known
  rw [List.getLast?_concat] at known
  cases known
  exact opening

/-- What reading tokens behind others comes to: those that are used derive what is read, and others follow them;
or they are refused. -/
def Settles {α : Type} (scope : Scope) (before found : List Token) (derived : List Token → α → Prop)
    (follows : List Token → Prop) : Except TermFault (α × List Token) → Prop
  | .ok (a, rest) => ∃ used, found = used ++ rest ∧ derived used a ∧ follows rest
  | .error fault => scope.Blames (before ++ found) fault

theorem Settles.done {α : Type} {before rest : List Token} {derived : List Token → α → Prop}
    {follows : List Token → Prop} {a : α} (derives : derived [] a) (follow : follows rest) :
    Settles scope before rest derived follows (.ok (a, rest)) :=
  ⟨[], rfl, derives, follow⟩

/-- What is read next stands behind what has been used. -/
theorem Settles.bind {α β : Type} {before found : List Token} {derived : List Token → α → Prop}
    {derived' : List Token → β → Prop} {follows follows' : List Token → Prop}
    {read : Except TermFault (α × List Token)} {next : α × List Token → Except TermFault (β × List Token)}
    (settles : Settles scope before found derived follows read)
    (further : ∀ used a rest, found = used ++ rest → derived used a → follows rest →
      Settles scope (before ++ used) rest (fun more b => derived' (used ++ more) b) follows' (next (a, rest))) :
    Settles scope before found derived' follows' (read >>= next) := by
  cases read with
  | error fault => exact settles
  | ok result =>
      obtain ⟨a, rest⟩ := result
      obtain ⟨used, rfl, derives, follow⟩ := settles
      have last := further used a rest rfl derives follow
      rw [ok_bind]
      cases result : next (a, rest) with
      | error fault =>
          rw [result] at last
          rw [Settles, ← List.append_assoc]
          exact last
      | ok result' =>
          rw [result] at last
          obtain ⟨more, rfl, derives', follow'⟩ := last
          exact ⟨used ++ more, (List.append_assoc ..).symm, derives', follow'⟩

/-- A token that is passed over is the first of those that are used. -/
theorem Settles.behind {α : Type} {before found : List Token} {token : Token} {derived : List Token → α → Prop}
    {follows : List Token → Prop} {read : Except TermFault (α × List Token)}
    (settles : Settles scope (before ++ [token]) found (fun used => derived (token :: used)) follows read) :
    Settles scope before (token :: found) derived follows read := by
  cases read with
  | error fault =>
      rw [Settles, List.append_assoc] at settles
      exact settles
  | ok result =>
      obtain ⟨used, rfl, derives, follow⟩ := settles
      exact ⟨token :: used, rfl, derives, follow⟩

theorem readOperand_of_ne_opening {fuel : Nat} {token : Token} {rest : List Token} (plain : token ≠ .opening) :
    scope.readOperand (fuel + 1) (token :: rest) = (scope.atom token).map (·, rest) := by
  cases token with
  | opening => exact absurd rfl plain
  | _ => rw [readOperand]; nofun

/-- A command that begins with no word that could name a function is a single value. -/
theorem readCommand_value {fuel : Nat} {piped : Option Term} {token : Token} {rest : List Token}
    (continued : endsCommand (token :: rest) = false)
    (plain : ∀ name, token = .word name → Constant.ofWord? name ≠ none) :
    scope.readCommand (fuel + 1) piped (token :: rest) =
      if piped.isSome then .error (.notExecutable token)
      else scope.readOperand fuel (token :: rest) >>= fun read =>
        if endsCommand read.2 then .ok read else .error (.argument token) := by
  rw [readCommand.eq_def]
  cases token with
  | word name =>
      have constant : (Constant.ofWord? name).isNone = false := by
        simpa [Option.isSome_iff_ne_none] using plain name rfl
      simp only [continued, constant, Bool.false_eq_true, if_false]
  | closing => cases continued
  | bar => cases continued
  | _ => rfl

variable (scope) in
/-- Tokens derive a command that is completed by the value that is handed to it. -/
def DerivesStage (used : List Token) (t : Term) : (piped : Option Term) → Prop
  | none => scope.Derives .command used [t.source]
  | some value => ∃ name args es, used = .word name :: args ∧ scope.Callable name ∧
      scope.Derives .operands args es ∧ t.source = callForm name (es ++ [value.source])

variable (scope) in
/-- With a bound on the depth that suffices for the tokens, each reader reads its part of the grammar. -/
structure ReadsGrammar (fuel : Nat) : Prop where
  pipeline : ∀ {before found : List Token}, Opens before → 4 * found.length + 3 ≤ fuel →
    Settles scope before found (fun used t => scope.Derives .pipeline used [t.source]) EndsPipeline
      (scope.readPipeline fuel found)
  stages : ∀ {before found front : List Token} {value : Term}, scope.Derives .pipeline front [value.source] →
    endsCommand found = true → 4 * found.length + 2 ≤ fuel →
      Settles scope before found (fun used t => scope.Derives .pipeline (front ++ used) [t.source]) EndsPipeline
        (scope.readStages fuel value found)
  command : ∀ {before found : List Token} {piped : Option Term}, Opens before →
    (piped ≠ none → before.getLast? = some .bar) → 4 * found.length + 2 ≤ fuel →
      Settles scope before found (fun used t => scope.DerivesStage used t piped) (endsCommand · = true)
        (scope.readCommand fuel piped found)
  operands : ∀ {before found : List Token}, 4 * found.length + 1 ≤ fuel →
    Settles scope before found (fun used ts => scope.Derives .operands used (Term.sources ts)) (endsCommand · = true)
      (scope.readOperands fuel found)
  operand : ∀ {before found : List Token}, endsCommand found = false → 4 * found.length ≤ fuel →
    Settles scope before found (fun used t => used ≠ [] ∧ scope.Derives .operand used [t.source]) (fun _ => True)
      (scope.readOperand fuel found)

section Readers

variable {fuel : Nat} (reads : scope.ReadsGrammar fuel) {before found : List Token}

include reads

theorem settles_pipeline (opens : Opens before) (enough : 4 * found.length + 3 ≤ fuel + 1) :
    Settles scope before found (fun used t => scope.Derives .pipeline used [t.source]) EndsPipeline
      (scope.readPipeline (fuel + 1) found) := by
  rw [readPipeline]
  refine (reads.command opens (absurd rfl) (by omega)).bind fun used value rest same derives ended => ?_
  have shorter : rest.length ≤ found.length := by
    rw [same, List.length_append]
    omega
  exact reads.stages (.first derives) ended (by omega)

theorem settles_stages {front : List Token} {value : Term} (derives : scope.Derives .pipeline front [value.source])
    (ended : endsCommand found = true) (enough : 4 * found.length + 2 ≤ fuel + 1) :
    Settles scope before found (fun used t => scope.Derives .pipeline (front ++ used) [t.source]) EndsPipeline
      (scope.readStages (fuel + 1) value found) := by
  match found with
  | [] => exact .done (by simpa using derives) (.inl rfl)
  | .closing :: rest => exact .done (by simpa using derives) (.inr ⟨rest, rfl⟩)
  | .bar :: rest =>
      rw [List.length_cons] at enough
      rw [readStages]
      refine .behind ?_
      have behindBar : some value ≠ none → (before ++ [Token.bar]).getLast? = some .bar :=
        fun _ => List.getLast?_concat
      have command := reads.command (opens_concat (.inr rfl)) behindBar (show 4 * rest.length + 2 ≤ fuel by omega)
      refine command.bind fun used called behind same stage ended => ?_
      obtain ⟨name, args, es, rfl, callable, operands, source⟩ := stage
      have longer : scope.Derives .pipeline (front ++ .bar :: .word name :: args) [called.source] := by
        rw [source]
        exact .stage derives callable operands
      have shorter : behind.length ≤ rest.length := by
        rw [same, List.length_append]
        omega
      have further : Settles scope (before ++ [.bar] ++ .word name :: args) behind _ EndsPipeline _ :=
        reads.stages longer ended (by omega)
      simpa only [List.append_assoc, List.cons_append] using further

/-- A single value is a command if nothing but its end follows. -/
theorem settles_value {token : Token} {rest : List Token} (opens : Opens before)
    (continued : endsCommand (token :: rest) = false) (enough : 4 * (token :: rest).length + 2 ≤ fuel + 1) :
    Settles scope before (token :: rest) (fun used t => scope.Derives .command used [t.source])
      (endsCommand · = true)
      (scope.readOperand fuel (token :: rest) >>= fun read =>
        if endsCommand read.2 then .ok read else .error (.argument token)) := by
  refine (reads.operand continued (by omega)).bind fun used value behind same derives _ => ?_
  obtain ⟨some, derives⟩ := derives
  dsimp only
  split
  · rename_i ended
    exact .done (by simpa using .value derives) ended
  · rename_i further
    obtain ⟨first, operand, rfl⟩ := List.exists_cons_of_ne_nil some
    obtain ⟨rfl, rfl⟩ := List.cons.inj same
    rw [Settles, List.append_assoc]
    exact .argument opens derives (by simpa using further)

theorem settles_call {name : List Char} {rest : List Token} {piped : Option Term} (opens : Opens before)
    (free : Constant.ofWord? name = none) (enough : 4 * (Token.word name :: rest).length + 2 ≤ fuel + 1) :
    Settles scope before (.word name :: rest) (fun used t => scope.DerivesStage used t piped)
      (endsCommand · = true)
      (if scope.isFunction name then
        scope.readOperands fuel rest >>= fun read => .ok (.call name (read.1 ++ piped.toList), read.2)
      else .error (.unknownFunction name)) := by
  rw [List.length_cons] at enough
  split
  · rename_i known
    have callable : scope.Callable name := callable_iff.mpr ⟨known, free⟩
    refine .behind ((reads.operands (by omega)).bind fun used args behind _ derives ended => ?_)
    have stage : scope.DerivesStage (.word name :: used) (.call name (args ++ piped.toList)) piped := by
      cases piped with
      | none =>
          rw [DerivesStage, Option.toList_none, List.append_nil, source_call]
          exact .call callable derives
      | some value =>
          refine ⟨name, used, _, rfl, callable, derives, ?_⟩
          rw [Option.toList_some, source_call, sources_append_singleton]
    exact .done (by simpa using stage) ended
  · rename_i unknown
    exact .unknownFunction opens free (by simpa using unknown)

theorem settles_command {piped : Option Term} (opens : Opens before)
    (behindBar : piped ≠ none → before.getLast? = some .bar) (enough : 4 * found.length + 2 ≤ fuel + 1) :
    Settles scope before found (fun used t => scope.DerivesStage used t piped) (endsCommand · = true)
      (scope.readCommand (fuel + 1) piped found) := by
  cases ended : endsCommand found with
  | true =>
      have refused : scope.readCommand (fuel + 1) piped found = .error .noValue := by
        rw [readCommand.eq_def]
        exact if_pos ended
      rw [refused]
      exact .noValue opens ended
  | false =>
      match found with
      | [] => cases ended
      | token :: rest =>
          by_cases callee : ∃ name, token = .word name ∧ Constant.ofWord? name = none
          · obtain ⟨name, rfl, free⟩ := callee
            rw [readCommand.eq_def]
            simp only [ended, Bool.false_eq_true, if_false, free, Option.isNone_none, if_true]
            exact settles_call reads opens free enough
          · have plain (name : List Char) (same : token = .word name) : Constant.ofWord? name ≠ none :=
              fun free => callee ⟨name, same, free⟩
            rw [readCommand_value ended plain]
            cases piped with
            | none => exact settles_value reads opens ended enough
            | some value =>
                obtain ⟨front, rfl⟩ := List.getLast?_eq_some_iff.mp (behindBar nofun)
                have blames : scope.Blames (front ++ .bar :: token :: rest) (.notExecutable token) :=
                  .notExecutable plain ended
                rw [if_pos Option.isSome_some, Settles, List.append_assoc]
                exact blames

theorem settles_operands (enough : 4 * found.length + 1 ≤ fuel + 1) :
    Settles scope before found (fun used ts => scope.Derives .operands used (Term.sources ts)) (endsCommand · = true)
      (scope.readOperands (fuel + 1) found) := by
  rw [readOperands]
  split
  · rename_i ended
    exact ⟨[], rfl, .none, ended⟩
  · rename_i continued
    refine (reads.operand (by simpa using continued) (by omega)).bind fun used value behind same derives _ => ?_
    obtain ⟨some, derives⟩ := derives
    have nonempty := List.length_pos_iff.mpr some
    have shorter : found.length = used.length + behind.length := by rw [same, List.length_append]
    refine (reads.operands (by omega)).bind fun more values rest _ others ended => ?_
    exact .done (by simpa using .more derives others) ended

theorem settles_group (enough : 4 * (found.length + 1) ≤ fuel + 1) :
    Settles scope before (.opening :: found) (fun used t => used ≠ [] ∧ scope.Derives .operand used [t.source])
      (fun _ => True) (scope.readOperand (fuel + 1) (.opening :: found)) := by
  rw [readOperand]
  refine .behind ((reads.pipeline (opens_concat (.inl rfl)) (by omega)).bind fun used value rest _ derives ends => ?_)
  obtain rfl | ⟨more, rfl⟩ := ends
  · have blames : scope.Blames (before ++ .opening :: used) .unclosed := .unclosed derives
    simpa only [Settles, List.append_assoc, List.singleton_append, List.append_nil] using blames
  · exact ⟨[.closing], rfl, ⟨List.cons_ne_nil _ _, .group derives⟩, True.intro⟩

theorem settles_operand (continued : endsCommand found = false) (enough : 4 * found.length ≤ fuel + 1) :
    Settles scope before found (fun used t => used ≠ [] ∧ scope.Derives .operand used [t.source]) (fun _ => True)
      (scope.readOperand (fuel + 1) found) := by
  match found with
  | [] => cases continued
  | token :: rest =>
      by_cases paren : token = .opening
      · subst paren
        exact settles_group reads enough
      · rw [readOperand_of_ne_opening paren]
        cases atom : scope.atom token with
        | error fault => exact .operand paren continued atom
        | ok t => exact ⟨[token], rfl, ⟨List.cons_ne_nil _ _, .atom (spells_of_atom atom)⟩, True.intro⟩

end Readers

variable (scope) in
theorem readsGrammar (fuel : Nat) : scope.ReadsGrammar fuel := by
  induction fuel with
  | zero =>
      constructor
      · intro before found _ enough
        omega
      · intro before found front value _ _ enough
        omega
      · intro before found piped _ _ enough
        omega
      · intro before found enough
        omega
      · intro before found continued enough
        match found with
        | [] => cases continued
        | _ :: _ => simp at enough
  | succ fuel reads =>
      exact {
        pipeline := settles_pipeline reads
        stages := settles_stages reads
        command := settles_command reads
        operands := settles_operands reads
        operand := settles_operand reads }

/-! ## What derives is read -/

/-- An operand begins with a token that neither ends a command nor names a function. -/
theorem exists_head_of_operand {tokens : List Token} {es : List (List Char)}
    (derives : scope.Derives .operand tokens es) :
    ∃ token more, tokens = token :: more ∧ endsCommand (token :: more) = false ∧
      ∀ name, token = .word name → Constant.ofWord? name ≠ none := by
  cases derives with
  | atom spells =>
      refine ⟨_, [], rfl, ?_⟩
      cases spells
      all_goals
        refine ⟨rfl, ?_⟩
        rintro name ⟨⟩
        try nofun
  | group _ => exact ⟨_, _, rfl, rfl, nofun⟩

theorem endsCommand_operand {tokens rest : List Token} {es : List (List Char)}
    (derives : scope.Derives .operand tokens es) : endsCommand (tokens ++ rest) = false := by
  obtain ⟨token, more, rfl, continued, _⟩ := exists_head_of_operand derives
  cases token with
  | closing => cases continued
  | bar => cases continued
  | _ => rfl

variable (scope) in
/-- The reader of a part takes tokens that derive from it, whatever may follow them there, with a bound on the
depth that suffices for them.  A pipeline is read up to where a further stage could begin. -/
def IsRead : Part → List Token → List (List Char) → Prop
  | .operand, tokens, es => ∃ t, es = [t.source] ∧ ∀ fuel rest, 4 * tokens.length ≤ fuel →
      scope.readOperand fuel (tokens ++ rest) = .ok (t, rest)
  | .operands, tokens, es => ∃ ts, es = Term.sources ts ∧ ∀ fuel rest, endsCommand rest = true →
      4 * tokens.length + 1 ≤ fuel → scope.readOperands fuel (tokens ++ rest) = .ok (ts, rest)
  | .command, tokens, es => ∃ t, es = [t.source] ∧ ∀ fuel rest, endsCommand rest = true →
      4 * tokens.length + 2 ≤ fuel → scope.readCommand fuel none (tokens ++ rest) = .ok (t, rest)
  | .pipeline, tokens, es => ∃ t, es = [t.source] ∧ ∀ fuel rest, endsCommand rest = true →
      4 * tokens.length + 3 ≤ fuel → ∃ left, fuel ≤ left + tokens.length + 1 ∧
        scope.readPipeline fuel (tokens ++ rest) = scope.readStages left t rest

theorem readStages_of_endsPipeline {fuel : Nat} {value : Term} {rest : List Token} (ends : EndsPipeline rest) :
    scope.readStages fuel value rest = .ok (value, rest) := by
  obtain rfl | ⟨more, rfl⟩ := ends
  · cases fuel <;> rfl
  · cases fuel <;> rfl

theorem isRead_group {inner : List Token} {e : List Char} (read : scope.IsRead .pipeline inner [e]) :
    scope.IsRead .operand (.opening :: (inner ++ [.closing])) [e] := by
  obtain ⟨t, same, read⟩ := read
  refine ⟨t, same, fun fuel rest enough => ?_⟩
  rw [List.length_cons, List.length_append, List.length_singleton] at enough
  obtain ⟨fuel, rfl⟩ : ∃ less, fuel = less + 1 := ⟨fuel - 1, by omega⟩
  obtain ⟨left, _, ran⟩ := read fuel (.closing :: rest) rfl (by omega)
  rw [List.cons_append, List.append_assoc, List.singleton_append, readOperand, ran,
    readStages_of_endsPipeline (.inr ⟨rest, rfl⟩)]
  rfl

theorem isRead_more {first others : List Token} {e : List Char} {es : List (List Char)}
    (derives : scope.Derives .operand first [e]) (read : scope.IsRead .operand first [e])
    (readOthers : scope.IsRead .operands others es) : scope.IsRead .operands (first ++ others) (e :: es) := by
  obtain ⟨t, same, read⟩ := read
  obtain ⟨ts, rfl, readOthers⟩ := readOthers
  obtain rfl := List.singleton_inj.mp same
  refine ⟨t :: ts, rfl, fun fuel rest ended enough => ?_⟩
  obtain ⟨token, more, rfl, _, _⟩ := exists_head_of_operand derives
  rw [List.length_append, List.length_cons] at enough
  obtain ⟨fuel, rfl⟩ : ∃ less, fuel = less + 1 := ⟨fuel - 1, by omega⟩
  have continued : endsCommand (token :: more ++ (others ++ rest)) = false := endsCommand_operand derives
  have operand := read fuel (others ++ rest) (by rw [List.length_cons]; omega)
  have operands := readOthers fuel rest ended (by omega)
  rw [List.append_assoc, readOperands, continued, if_neg nofun, operand, ok_bind]
  dsimp only
  rw [operands]
  rfl

theorem isRead_value {tokens : List Token} {e : List Char} (derives : scope.Derives .operand tokens [e])
    (read : scope.IsRead .operand tokens [e]) : scope.IsRead .command tokens [e] := by
  obtain ⟨t, same, read⟩ := read
  refine ⟨t, same, fun fuel rest ended enough => ?_⟩
  obtain ⟨fuel, rfl⟩ : ∃ less, fuel = less + 1 := ⟨fuel - 1, by omega⟩
  have continued : endsCommand (tokens ++ rest) = false := endsCommand_operand derives
  have operand := read fuel rest (by omega)
  obtain ⟨token, more, rfl, _, plain⟩ := exists_head_of_operand derives
  rw [List.cons_append] at continued operand ⊢
  rw [readCommand_value continued plain, if_neg (by simp), operand, ok_bind]
  exact if_pos ended

theorem readCommand_call {fuel : Nat} {name : List Char} {args rest : List Token} {ts : List Term}
    {piped : Option Term} (callable : scope.Callable name)
    (read : scope.readOperands fuel (args ++ rest) = .ok (ts, rest)) :
    scope.readCommand (fuel + 1) piped (.word name :: args ++ rest) =
      .ok (.call name (ts ++ piped.toList), rest) := by
  obtain ⟨known, free⟩ := callable_iff.mp callable
  rw [List.cons_append, readCommand.eq_def]
  simp only [endsCommand, Bool.false_eq_true, if_false, free, Option.isNone_none, if_true, known, read, ok_bind]

theorem isRead_stage {before args : List Token} {name e : List Char} {es : List (List Char)}
    (read : scope.IsRead .pipeline before [e]) (callable : scope.Callable name)
    (readArgs : scope.IsRead .operands args es) :
    scope.IsRead .pipeline (before ++ .bar :: .word name :: args) [callForm name (es ++ [e])] := by
  obtain ⟨t, same, read⟩ := read
  obtain ⟨ts, rfl, readArgs⟩ := readArgs
  obtain rfl := List.singleton_inj.mp same
  refine ⟨.call name (ts ++ [t]), by rw [source_call, sources_append_singleton], fun fuel rest ended enough => ?_⟩
  simp only [List.length_append, List.length_cons] at enough ⊢
  obtain ⟨left, bound, ran⟩ := read fuel (.bar :: .word name :: args ++ rest) rfl (by omega)
  obtain ⟨left, rfl⟩ : ∃ less, left = less + 2 := ⟨left - 2, by omega⟩
  have called : scope.readCommand (left + 1) (some t) (.word name :: args ++ rest) =
      .ok (.call name (ts ++ [t]), rest) := readCommand_call callable (readArgs left rest ended (by omega))
  refine ⟨left + 1, by omega, ?_⟩
  rw [List.append_assoc, ran, List.cons_append, readStages, called]
  rfl

/-- What derives from a part of the grammar is read. -/
theorem Derives.isRead {part : Part} {tokens : List Token} {es : List (List Char)}
    (derives : scope.Derives part tokens es) : scope.IsRead part tokens es := by
  induction derives with
  | @atom token e spells =>
      obtain ⟨t, atom, rfl⟩ := exists_atom_of_spells spells
      refine ⟨t, rfl, fun fuel rest enough => ?_⟩
      obtain ⟨fuel, rfl⟩ : ∃ less, fuel = less + 1 := ⟨fuel - 1, by simp at enough; omega⟩
      have plain : token ≠ .opening := by
        rintro rfl
        cases atom
      rw [List.singleton_append, readOperand_of_ne_opening plain, atom]
      rfl
  | group _ read => exact isRead_group read
  | none =>
      refine ⟨[], rfl, fun fuel rest ended enough => ?_⟩
      obtain ⟨fuel, rfl⟩ : ∃ less, fuel = less + 1 := ⟨fuel - 1, by omega⟩
      rw [List.nil_append, readOperands, if_pos ended]
  | more derives _ read readOthers => exact isRead_more derives read readOthers
  | value derives read => exact isRead_value derives read
  | @call name args es callable _ read =>
      obtain ⟨ts, rfl, read⟩ := read
      refine ⟨.call name ts, by rw [source_call], fun fuel rest ended enough => ?_⟩
      rw [List.length_cons] at enough
      obtain ⟨fuel, rfl⟩ : ∃ less, fuel = less + 1 := ⟨fuel - 1, by omega⟩
      rw [readCommand_call callable (read fuel rest ended (by omega)), Option.toList_none, List.append_nil]
  | first _ read =>
      obtain ⟨t, same, read⟩ := read
      refine ⟨t, same, fun fuel rest ended enough => ?_⟩
      obtain ⟨fuel, rfl⟩ : ∃ less, fuel = less + 1 := ⟨fuel - 1, by omega⟩
      refine ⟨fuel, by omega, ?_⟩
      rw [readPipeline, read fuel rest ended (by omega), ok_bind]
  | stage _ callable _ read readArgs => exact isRead_stage read callable readArgs

/-! ## All tokens of a body -/

/-- The term of all tokens of a body. -/
def readAll (scope : Scope) (found : List Token) : Except TermFault Term :=
  if found = [] then .error .noValue
  else do
    let (value, rest) ← scope.readPipeline (4 * found.length + 4) found
    match rest with
    | [] => .ok value
    | token :: _ => .error (.trailing token)

theorem read_eq_readAll (body : List Char) :
    scope.read body = match tokens body with
      | .error c => .error (.character c)
      | .ok found => scope.readAll found := by
  rw [read]
  cases tokens body with
  | error c => rfl
  | ok found => cases found <;> rfl

theorem readAll_of_derives {found : List Token} {e : List Char} (derives : scope.Derives .pipeline found [e]) :
    ∃ t, scope.readAll found = .ok t ∧ t.source = e := by
  obtain ⟨t, same, read⟩ := derives.isRead
  obtain ⟨left, _, ran⟩ := read (4 * found.length + 4) [] rfl (by omega)
  rw [List.append_nil, readStages_of_endsPipeline (.inl rfl)] at ran
  have some : found ≠ [] := by
    rintro rfl
    cases ran
  refine ⟨t, ?_, (List.singleton_inj.mp same).symm⟩
  rw [readAll, if_neg some, ran]
  rfl

/-- All tokens derive what is read, or are refused for what stands among them. -/
theorem derives_or_blames (scope : Scope) (found : List Token) :
    match scope.readAll found with
    | .ok t => scope.Derives .pipeline found [t.source]
    | .error fault => scope.Blames found fault := by
  have opens : Opens [] := nofun
  by_cases empty : found = []
  · subst empty
    exact .noValue opens rfl
  have settles := (scope.readsGrammar (4 * found.length + 4)).pipeline opens (Nat.le_succ (4 * found.length + 3))
  rw [readAll, if_neg empty]
  cases read : scope.readPipeline (4 * found.length + 4) found with
  | error fault =>
      rw [read] at settles
      exact settles
  | ok result =>
      obtain ⟨t, rest⟩ := result
      rw [read] at settles
      obtain ⟨used, rfl, derives, rfl | ⟨more, rfl⟩⟩ := settles
      · rw [List.append_nil]
        exact derives
      · exact .trailing derives

end Scope

example : ((CompileState.scope {} fun name => name = "not".toList).readAll
    [.field ["Port".toList], .bar, .word "not".toList, .opening, .numeral ['7'], .closing]).map Term.source =
      .ok "_not(7, Port)".toList := by rfl

end Stencil.Template
