import Stencil.Proofs.Template.Agreement

/-!
# Nested blocks and open chains

A chain that is open in a tree stands in the page as a group of nested blocks: its first arm opens a block,
and so does every further arm that binds the dot, inside of the last part of the block before.  Each piece
of a template keeps the tree, the page and the statements in step, and so do all of them together.
-/

namespace Stencil.Template.Direct

variable {p : Project.Parameters}

/-! ## Closing blocks -/

/-- The statements behind nested blocks that end one after the other, the last one first. -/
def closeAll : List OpenBlock → List Statement → List Statement
  | [], done => done
  | b :: outer, done => closeAll outer (b.close done.reverse :: b.before)

theorem nestFrom_closeAll (group outer : List OpenBlock) (done : List Statement) (more : Page) :
    nestFrom (group ++ outer) done (List.replicate group.length .endBlock ++ more) =
      nestFrom outer (closeAll group done) more := by
  induction group generalizing done with
  | nil => rfl
  | cons b group induction =>
      simp only [List.length_cons, List.replicate_succ, List.cons_append, nestFrom, closeAll]
      exact induction _

/-- All of some statements but those in `bottom`, the last one first, agree with a part of a tree. -/
def Finishes (p : Project.Parameters) (binding : Nat) (bottom all : List Statement) (n : Node) : Prop :=
  ∃ made, all = made ++ bottom ∧ Agrees p binding made.reverse [n]

/-- The innermost block of a group and the blocks around it, once complete, agree with an open chain however
this goes on. -/
def Fits (p : Project.Parameters) (binding inside : Nat) (bottom : List Statement) (b : OpenBlock)
    (group : List OpenBlock) (o : OpenChain) : Prop :=
  match b.test, o.head with
  | some t, some (keyword, e) =>
    ∀ ss ns arms otherwise arms' otherwise', Agrees p inside ss ns →
      Agrees p binding [.branch arms otherwise] [.chain arms' otherwise'] →
      Finishes p binding bottom
        (closeAll group (.branch (b.arms.reverse ++ (t, ss) :: arms) otherwise :: b.before))
        (.chain (o.arms.reverse ++ (keyword, e, ns) :: arms') otherwise')
  | none, none =>
    ∀ ss ns, Agrees p inside ss ns →
      Finishes p binding bottom (closeAll group (.branch b.arms.reverse ss :: b.before))
        (.chain o.arms.reverse ns)
  | _, _ => False

theorem Fits.close {binding inside : Nat} {bottom : List Statement} {b : OpenBlock}
    {group : List OpenBlock} {o : OpenChain} (fits : Fits p binding inside bottom b group o)
    {done : List Statement} {parts : List Node} (agrees : Agrees p inside done.reverse parts.reverse) :
    Finishes p binding bottom (closeAll (b :: group) done) (o.close parts.reverse) := by
  rw [closeAll, OpenBlock.close, OpenChain.close]
  unfold Fits at fits
  split at fits
  · rename_i tested headed
    have ends : Agrees p binding [.branch [] []] [.chain [] []] := agrees_nil.branch_nil.chain_nil
    simpa [tested, headed] using fits done.reverse parts.reverse [] [] [] [] agrees ends
  · rename_i tested headed
    simpa [tested, headed] using fits done.reverse parts.reverse agrees
  · cases fits

/-! ## Open chains and their groups -/

/-- How the arm of a chain is entered: whether it binds the dot, how many dots its block binds, and the
numbers of the dot in the arm and of all dots there. -/
inductive Enters (binding : Nat) (dots : List Nat) : Bool → Nat → Nat → List Nat → Prop
  /-- The dot is that around the chain. -/
  | plain : Enters binding dots false 0 binding dots
  /-- The dot is that of the arm. -/
  | bound {inside : Nat} (further : binding < inside) :
    Enters binding dots true 1 inside (inside :: dots)

theorem Enters.drop {binding count inside : Nat} {dots dots' : List Nat} {binds : Bool}
    (enters : Enters binding dots binds count inside dots') : dots'.drop count = dots := by
  cases enters <;> rfl

theorem Enters.le {binding count inside : Nat} {dots dots' : List Nat} {binds : Bool}
    (enters : Enters binding dots binds count inside dots') : binding ≤ inside := by
  cases enters with
  | plain => exact Nat.le_refl _
  | bound further => exact Nat.le_of_lt further

/-- The open chains of a tree, the open blocks of a compiler with its dots, and the open blocks of the
statements belong together; `inside` is the number of the dot in the innermost of them. -/
inductive Stack (p : Project.Parameters) :
    Nat → List OpenChain → List Block → List Nat → List OpenBlock → Prop
  /-- Nothing is open. -/
  | nil : Stack p 0 [] [] [] []
  /-- One more chain is open. -/
  | cons {binding inside : Nat} {chains : List OpenChain} {blocks : List Block} {dots dots' : List Nat}
    {nest group : List OpenBlock} {o : OpenChain} {block : Block} {b : OpenBlock}
    {bottom : List Statement} (around : Stack p binding chains blocks dots nest)
    (before : Agrees p binding bottom.reverse o.before.reverse)
    (enters : Enters binding dots o.binds block.dots inside dots')
    (ends : block.ends = (b :: group).length) (fits : Fits p binding inside bottom b group o) :
    Stack p inside (o :: chains) (block :: blocks) dots' (b :: group ++ nest)

theorem Stack.scope {inside : Nat} {chains : List OpenChain} {blocks : List Block} {dots : List Nat}
    {nest : List OpenBlock} (stack : Stack p inside chains blocks dots nest) :
    dots.head?.getD 0 = inside ∧ dots.head?.isSome = Draft.isBound chains := by
  induction stack with
  | nil => exact ⟨rfl, rfl⟩
  | @cons _ _ _ _ _ _ _ _ o block _ _ _ _ enters _ _ induction =>
      obtain ⟨number, bound⟩ := induction
      generalize binds : o.binds = b at enters
      generalize block.dots = count at enters
      cases enters with
      | plain =>
          refine ⟨number, ?_⟩
          rw [bound, Draft.isBound, Draft.isBound, List.any_cons, binds, Bool.false_or]
      | bound further =>
          refine ⟨rfl, ?_⟩
          rw [Draft.isBound, List.any_cons, binds]
          rfl

/-! ## Conditions and values -/

theorem checked_eq_ok {place : Place} {t : Term} (sound : (t.fault? place).isNone = true) :
    checked place t = .ok () := by
  rw [checked, Option.isNone_iff_eq_none.mp sound]

theorem exists_checked_eq_error {place : Place} {t : Term} (unsound : (t.fault? place).isNone = false) :
    ∃ fault, checked place t = .error fault := by
  rw [checked]
  cases faulty : t.fault? place with
  | none => simp [faulty] at unsound
  | some fault => exact ⟨fault, rfl⟩

/-- What a compiler reads means what the direct reader reads, and is refused where that is. -/
def Reads (p : Project.Parameters) (binding : Nat) (read : Except CompileFault Term) : Option Expr → Prop
  | some e => ∃ t, read = .ok t ∧ Means p binding e t ∧ ∀ place, checked place t = .ok ()
  | none => (∃ fault, read = .error fault) ∨
      ∃ t, read = .ok t ∧ ∀ place, ∃ fault, checked place t = .error fault

theorem Stack.reads {inside : Nat} {chains : List OpenChain} {blocks : List Block} {nest : List OpenBlock}
    {state : CompileState} (stack : Stack p inside chains blocks state.dots nest) (body : List Char) :
    Reads p inside (state.term (hasFunction builtins) body) (Draft.read? chains body) := by
  obtain ⟨number, bound⟩ := stack.scope
  have direct := read_means p state.dots.head? body
  have scope : state.scope (hasFunction builtins) = scopeOf state.dots.head? := rfl
  rw [number, bound] at direct
  rw [CompileState.term, scope, Draft.read?]
  cases read : (scopeOf state.dots.head?).read body with
  | error fault =>
      rw [read] at direct
      rw [direct]
      exact .inl ⟨_, rfl⟩
  | ok t =>
      rw [read] at direct
      obtain ⟨e, means, same⟩ := direct
      rw [same]
      cases sound : e.isSound with
      | true => exact ⟨t, rfl, means, fun place => checked_eq_ok ((means.sound place).trans sound)⟩
      | false =>
          exact .inr ⟨t, rfl, fun place => exists_checked_eq_error ((means.sound place).trans sound)⟩

/-! ## Dividing a chain -/

section Divide

variable {binding inside : Nat} {bottom : List Statement} {b : OpenBlock} {group : List OpenBlock}
  {o : OpenChain}

theorem Fits.head (fits : Fits p binding inside bottom b group o) :
    (∃ t keyword e, b.test = some t ∧ o.head = some (keyword, e)) ∨
      (b.test = none ∧ o.head = none) := by
  unfold Fits at fits
  split at fits
  · rename_i t keyword e tested headed
    exact .inl ⟨t, keyword, e, tested, headed⟩
  · rename_i tested headed
    exact .inr ⟨tested, headed⟩
  · cases fits

theorem fits_open_if {e : Expr} {t : Term} (means : Means p binding e t) (before : List Node) :
    Fits p binding binding bottom { test := some t, before := bottom } []
      { before, head := some (.ifBlock, e) } := by
  intro ss ns arms otherwise arms' otherwise' body others
  exact ⟨[_], rfl, means.branch_if body others⟩

theorem fits_open_with {e : Expr} {t : Term} (means : Means p binding e t) (further : binding < inside)
    (before : List Node) :
    Fits p binding inside bottom { test := some (.dot inside), before := .assign inside t :: bottom } []
      { before, head := some (.withBlock, e) } := by
  intro ss ns arms otherwise arms' otherwise' body others
  exact ⟨[_, _], rfl, means.branch_with further body others⟩

variable {t : Term} {keyword : Keyword} {e : Expr} {ss : List Statement} {ns : List Node}

theorem Fits.next_if (fits : Fits p binding inside bottom b group o) (tested : b.test = some t)
    (headed : o.head = some (keyword, e)) (agrees : Agrees p inside ss ns) {e' : Expr} {t' : Term}
    (means : Means p binding e' t') :
    Fits p binding binding bottom { b with arms := (t, ss) :: b.arms, test := some t' } group
      { o with arms := (keyword, e, ns) :: o.arms, head := some (.ifBlock, e') } := by
  simp only [Fits, tested, headed] at fits
  intro ss' ns' arms otherwise arms' otherwise' body others
  have finishes := fits ss ns _ _ _ _ agrees (means.branch_if body others)
  simpa using finishes

theorem Fits.next_with (fits : Fits p binding inside bottom b group o) (tested : b.test = some t)
    (headed : o.head = some (keyword, e)) (agrees : Agrees p inside ss ns) {number : Nat} {e' : Expr}
    {t' : Term} (means : Means p binding e' t') (further : binding < number) :
    Fits p binding number bottom { test := some (.dot number), before := [.assign number t'] }
      ({ b with arms := (t, ss) :: b.arms, test := none } :: group)
      { o with arms := (keyword, e, ns) :: o.arms, head := some (.withBlock, e') } := by
  simp only [Fits, tested, headed] at fits
  intro ss' ns' arms otherwise arms' otherwise' body others
  have finishes := fits ss ns _ _ _ _ agrees (means.branch_with further body others).branch_nil
  simpa [closeAll, OpenBlock.close] using finishes

theorem Fits.otherwise (fits : Fits p binding inside bottom b group o) (tested : b.test = some t)
    (headed : o.head = some (keyword, e)) (agrees : Agrees p inside ss ns) :
    Fits p binding binding bottom { b with arms := (t, ss) :: b.arms, test := none } group
      { o with arms := (keyword, e, ns) :: o.arms, head := none } := by
  simp only [Fits, tested, headed] at fits
  intro ss' ns' body
  have finishes := fits ss ns _ _ _ _ agrees body.branch_nil.chain_nil
  simpa using finishes

end Divide

/-! ## Steps -/

/-- A tree, a compiler and the statements of the page so far are in step. -/
structure Follows (p : Project.Parameters) (inside : Nat) (d : Draft) (state : CompileState)
    (nest : List OpenBlock) (done : List Statement) : Prop where
  /-- What is open in one is open in the others. -/
  stack : Stack p inside d.chains state.blocks state.dots nest
  /-- The dot has a number that is taken. -/
  taken : inside ≤ state.bindings
  /-- The statements of what is open agree with its parts. -/
  parts : Agrees p inside done.reverse d.parts.reverse

/-- What a compiler makes of a piece keeps it in step with the tree, and a piece that no tree takes is
refused by the compiler or by the nesting of its tags. -/
def Answers (p : Project.Parameters) (nest : List OpenBlock) (done : List Statement)
    (made : Except CompileFault (CompileState × List Tag)) : Option Draft → Prop
  | some d => ∃ state tags inside nest' done', made = .ok (state, tags) ∧
      (∀ more, nestFrom nest done (tags ++ more) = nestFrom nest' done' more) ∧
      Follows p inside d state nest' done'
  | none => (∃ fault, made = .error fault) ∨ ∃ state tags, made = .ok (state, tags) ∧
      ∀ more, ∃ fault, nestFrom nest done (tags ++ more) = .error fault

/-- Where there is no tree, a term is not read, or the nesting of the tags that it is put into refuses it. -/
theorem Reads.refused {binding : Nat} {read : Except CompileFault Term} {nest : List OpenBlock}
    {done : List Statement} {after : Term → CompileState × List Tag} (reads : Reads p binding read none)
    (place : Place)
    (checks : ∀ t fault, checked place t = .error fault → ∀ more,
      nestFrom nest done ((after t).2 ++ more) = .error fault) :
    Answers p nest done (read.bind fun t => .ok (after t)) none := by
  rcases reads with ⟨fault, rfl⟩ | ⟨t, rfl, unsound⟩
  · exact .inl ⟨fault, rfl⟩
  · obtain ⟨fault, refused⟩ := unsound place
    exact .inr ⟨_, _, rfl, fun more => ⟨fault, checks t fault refused more⟩⟩

namespace Follows

variable {inside : Nat} {d : Draft} {state : CompileState} {nest : List OpenBlock} {done : List Statement}

theorem put (follows : Follows p inside d state nest done) {ss : List Statement} {ns : List Node}
    (agrees : Agrees p inside ss ns) :
    Follows p inside { d with parts := ns.reverse ++ d.parts } state nest (ss.reverse ++ done) where
  stack := follows.stack
  taken := follows.taken
  parts := by
    simp only [List.reverse_append, List.reverse_reverse]
    exact follows.parts.append agrees

theorem text (follows : Follows p inside d state nest done) (s : List Char) :
    Answers p nest done ((textTags s).map (state, ·)) (d.add? (.text s)) := by
  rw [Draft.add?, textTags]
  by_cases paired : hasPair '\x7b' '\x7b' s = true
  · rw [if_pos paired, if_pos paired]
    exact .inl ⟨_, rfl⟩
  · rw [if_neg paired, if_neg paired]
    cases s with
    | nil => exact ⟨state, [], inside, nest, done, rfl, fun more => rfl, follows.put agrees_noText⟩
    | cons c rest =>
        by_cases literal : needsLiteral (c :: rest) = true
        · refine ⟨state, [.output (.text (c :: rest))], inside, nest, _, by simp [literal, Except.map],
            fun more => ?_, follows.put (agrees_literal (c :: rest))⟩
          rfl
        · refine ⟨state, [.data (c :: rest)], inside, nest, _, by simp [literal, Except.map],
            fun more => ?_, follows.put (agrees_data (c :: rest))⟩
          rfl

theorem print (follows : Follows p inside d state nest done) (body : List Char) :
    Answers p nest done
      ((state.term (hasFunction builtins) body).bind fun t => .ok (state, [.output t]))
      (d.obey? (.print body)) := by
  have reads := follows.stack.reads body
  rw [Draft.obey?]
  cases direct : Draft.read? d.chains body with
  | some e =>
      rw [direct] at reads
      obtain ⟨t, read, means, sound⟩ := reads
      refine ⟨state, [.output t], inside, nest, .output t :: done, by rw [read]; rfl, fun more => ?_,
        follows.put (agrees_output means)⟩
      rw [List.singleton_append, nestFrom, sound]
      rfl
  | none =>
      rw [direct] at reads
      refine reads.refused .output fun t fault refused more => ?_
      rw [List.singleton_append, nestFrom, refused]
      rfl

theorem openArm (follows : Follows p inside d state nest done) (keyword : Keyword) (condition : List Char) :
    Answers p nest done
      (state.openArm (hasFunction builtins) keyword condition { keyword } state.blocks)
      (d.obey? (.open keyword condition)) := by
  have reads := follows.stack.reads condition
  rw [Draft.obey?, CompileState.openArm]
  cases direct : Draft.read? d.chains condition with
  | none =>
      rw [direct] at reads
      cases keyword with
      | ifBlock =>
          refine reads.refused .tag fun t fault refused more => ?_
          rw [List.singleton_append, nestFrom, refused]
          rfl
      | withBlock =>
          refine reads.refused .tag fun t fault refused more => ?_
          rw [List.cons_append, nestFrom, refused]
          rfl
  | some e =>
      rw [direct] at reads
      obtain ⟨t, read, means, sound⟩ := reads
      rw [read]
      cases keyword with
      | ifBlock =>
          refine ⟨_, _, inside, { test := some t, before := done } :: nest, [], rfl, fun more => ?_, ?_⟩
          · rw [List.singleton_append, nestFrom, sound]
            rfl
          · exact {
              stack := .cons follows.stack follows.parts .plain rfl (fits_open_if means d.parts)
              taken := follows.taken
              parts := agrees_nil }
      | withBlock =>
          have further : inside < state.bindings + 1 := Nat.lt_succ_of_le follows.taken
          refine ⟨_, _, state.bindings + 1,
            { test := some (.dot (state.bindings + 1)),
              before := .assign (state.bindings + 1) t :: done } :: nest, [], rfl, fun more => ?_, ?_⟩
          · rw [List.cons_append, nestFrom, sound]
            rfl
          · exact {
              stack := .cons follows.stack follows.parts (.bound further) rfl
                (fits_open_with means further d.parts)
              taken := Nat.le_refl _
              parts := agrees_nil }

/-- What is open in the innermost chain, in the compiler and in the page. -/
theorem innermost {o : OpenChain} {outer : List OpenChain} {parts : List Node}
    (follows : Follows p inside ⟨o :: outer, parts⟩ state nest done) :
    ∃ block blocks b group around binding bottom,
      state.blocks = block :: blocks ∧ nest = b :: group ++ around ∧ binding ≤ inside ∧
      Stack p binding outer blocks (state.dots.drop block.dots) around ∧
      Agrees p binding bottom.reverse o.before.reverse ∧ block.ends = (b :: group).length ∧
      Fits p binding inside bottom b group o := by
  obtain ⟨blocks, dots, bindings⟩ := state
  obtain ⟨stack, -, -⟩ := follows
  cases stack with
  | cons around before enters ends fits =>
      exact ⟨_, _, _, _, _, _, _, rfl, rfl, enters.le, enters.drop.symm ▸ around, before, ends, fits⟩

theorem blocks_eq_nil {parts : List Node} (follows : Follows p inside ⟨[], parts⟩ state nest done) :
    state.blocks = [] ∧ nest = [] ∧ inside = 0 := by
  obtain ⟨blocks, dots, bindings⟩ := state
  obtain ⟨stack, -, -⟩ := follows
  cases stack with
  | nil => exact ⟨rfl, rfl, rfl⟩

theorem close (follows : Follows p inside d state nest done) :
    Answers p nest done (state.close []) (d.obey? .close) := by
  obtain ⟨chains, parts⟩ := d
  rw [CompileState.close, Draft.obey?]
  cases chains with
  | nil =>
      rw [follows.blocks_eq_nil.1]
      exact .inl ⟨_, rfl⟩
  | cons o outer =>
      obtain ⟨block, blocks, b, group, around, binding, bottom, opened, nested, below, stack, before,
        ends, fits⟩ := follows.innermost
      obtain ⟨made, closed, agrees⟩ := fits.close follows.parts
      rw [opened]
      refine ⟨_, _, binding, around, closeAll (b :: group) done, rfl, fun more => ?_, ?_⟩
      · rw [nested]
        rw [ends]
        exact nestFrom_closeAll (b :: group) around done more
      · exact {
          stack
          taken := Nat.le_trans below follows.taken
          parts := by
            simp only [closed, List.reverse_append, List.reverse_cons]
            exact before.append agrees }

theorem otherwise (follows : Follows p inside d state nest done) :
    Answers p nest done (state.divide (hasFunction builtins) []) (d.obey? .otherwise) := by
  obtain ⟨chains, parts⟩ := d
  rw [CompileState.divide, Draft.obey?]
  cases chains with
  | nil =>
      rw [follows.blocks_eq_nil.1]
      exact .inl ⟨_, rfl⟩
  | cons o outer =>
      obtain ⟨block, blocks, b, group, around, binding, bottom, opened, nested, below, stack, before,
        ends, fits⟩ := follows.innermost
      rw [opened, nested]
      rcases fits.head with ⟨t, keyword, e, tested, headed⟩ | ⟨tested, headed⟩
      · simp only [OpenChain.divide?, headed]
        refine ⟨_, _, binding,
          { b with arms := (t, done.reverse) :: b.arms, test := none } :: group ++ around, [],
          rfl, fun more => ?_, ?_⟩
        · rw [List.singleton_append, List.cons_append, nestFrom]
          simp only [divided, tested]
          rfl
        · exact {
            stack := .cons stack before .plain ends (fits.otherwise tested headed follows.parts)
            taken := Nat.le_trans below follows.taken
            parts := agrees_nil }
      · simp only [OpenChain.divide?, headed]
        refine .inr ⟨_, _, rfl, fun more => ?_⟩
        rw [List.singleton_append, List.cons_append, nestFrom]
        simp only [divided, tested]
        exact ⟨_, rfl⟩

/-- The state and the tags of a further arm with a term; the dots around the arm are those of the state. -/
private def nextArm (state : CompileState) (block : Block) (outer : List Block) :
    Keyword → Term → CompileState × List Tag
  | .ifBlock, t => ({ state with blocks := block :: outer }, [.elifOpen t])
  | .withBlock, t =>
    let binding := state.bindings + 1
    ({ blocks := { block with dots := block.dots + 1, ends := block.ends + 1 } :: outer,
       dots := binding :: state.dots, bindings := binding },
      [.elseOpen, .assign binding t, .ifOpen (.dot binding)])

private theorem divide_eq_nextArm {rest word condition : List Char} {keyword : Keyword} {block : Block}
    {outer : List Block} (opened : state.blocks = block :: outer) (more : rest.isEmpty = false)
    (split : Text.splitWord rest = (word, condition)) (known : Keyword.ofWord? word = some keyword)
    (given : condition.isEmpty = false) (isFunction : List Char → Bool) :
    state.divide isFunction rest = ((state.release block).1.term isFunction condition).bind fun t =>
      .ok (nextArm (state.release block).1 (state.release block).2 outer keyword t) := by
  obtain ⟨c, condition, rfl⟩ := List.exists_cons_of_ne_nil (by simpa using given : condition ≠ [])
  rw [CompileState.divide, opened]
  simp only [more, split, known, Bool.false_eq_true, if_false]
  cases keyword with
  | ifBlock =>
      simp only
      cases (state.release block).1.term isFunction (c :: condition) <;> rfl
  | withBlock =>
      simp only [CompileState.openArm]
      cases (state.release block).1.term isFunction (c :: condition) <;> rfl

private theorem nestFrom_nextArm_of_last {b : OpenBlock} (last : b.test = none) (outer : List OpenBlock)
    (block : Block) (blocks : List Block) (keyword : Keyword) (t : Term) (more : Page) :
    ∃ fault, nestFrom (b :: outer) done ((nextArm state block blocks keyword t).2 ++ more) =
      .error fault := by
  cases keyword with
  | ifBlock =>
      simp only [nextArm, List.cons_append, nestFrom, divided, last]
      exact ⟨_, rfl⟩
  | withBlock =>
      simp only [nextArm, List.cons_append, nestFrom, divided, last]
      exact ⟨_, rfl⟩

private theorem nestFrom_nextArm_of_unsound {b : OpenBlock} {t₀ t : Term} {fault : PageFault}
    (tested : b.test = some t₀) (refused : checked .tag t = .error fault) (outer : List OpenBlock)
    (block : Block) (blocks : List Block) (keyword : Keyword) (more : Page) :
    nestFrom (b :: outer) done ((nextArm state block blocks keyword t).2 ++ more) = .error fault := by
  cases keyword with
  | ifBlock =>
      simp only [nextArm, List.cons_append, nestFrom, divided, tested, ok_bind, refused, error_bind]
  | withBlock =>
      simp only [nextArm, List.cons_append, nestFrom, divided, tested, ok_bind, refused, error_bind]

theorem next (follows : Follows p inside d state nest done) {rest word condition : List Char}
    {keyword : Keyword} (more : rest.isEmpty = false) (split : Text.splitWord rest = (word, condition))
    (known : Keyword.ofWord? word = some keyword) (given : condition.isEmpty = false) :
    Answers p nest done (state.divide (hasFunction builtins) rest) (d.obey? (.next keyword condition)) := by
  obtain ⟨chains, parts⟩ := d
  rw [Draft.obey?]
  cases chains with
  | nil =>
      rw [CompileState.divide, follows.blocks_eq_nil.1]
      exact .inl ⟨_, rfl⟩
  | cons o outer =>
      obtain ⟨block, blocks, b, group, around, binding, bottom, opened, nested, below, stack, before,
        ends, fits⟩ := follows.innermost
      have taken : binding ≤ state.bindings := Nat.le_trans below follows.taken
      have reads : Reads p binding ((state.release block).1.term (hasFunction builtins) condition)
          (Draft.read? outer condition) := Stack.reads stack condition
      rw [divide_eq_nextArm opened more split known given, nested]
      rcases fits.head with ⟨t₀, keyword₀, e₀, tested, headed⟩ | ⟨last, headed⟩
      · cases direct : Draft.read? outer condition with
        | none =>
            rw [direct] at reads
            simp only [direct, Option.bind_eq_bind, Option.bind_none]
            exact reads.refused .tag fun t fault refused behind =>
              nestFrom_nextArm_of_unsound tested refused _ _ _ _ behind
        | some e =>
            rw [direct] at reads
            obtain ⟨t, read, means, sound⟩ := reads
            rw [read]
            simp only [direct, OpenChain.divide?, headed, Option.bind_eq_bind, Option.bind_some,
              Option.map_some]
            cases keyword with
            | ifBlock =>
                refine ⟨_, _, binding,
                  { b with arms := (t₀, done.reverse) :: b.arms, test := some t } :: group ++ around, [],
                  rfl, fun behind => ?_, ?_⟩
                · simp only [List.cons_append, nestFrom, divided, tested, ok_bind, sound]
                  rfl
                · exact {
                    stack := .cons stack before .plain ends
                      (fits.next_if tested headed follows.parts means)
                    taken
                    parts := agrees_nil }
            | withBlock =>
                have further : binding < state.bindings + 1 := Nat.lt_succ_of_le taken
                refine ⟨_, _, state.bindings + 1,
                  { test := some (.dot (state.bindings + 1)), before := [.assign (state.bindings + 1) t] } ::
                    { b with arms := (t₀, done.reverse) :: b.arms, test := none } :: group ++ around, [],
                  rfl, fun behind => ?_, ?_⟩
                · simp only [List.cons_append, nestFrom, divided, tested, ok_bind, sound]
                  rfl
                · exact {
                    stack := .cons stack before (.bound further) (congrArg Nat.succ ends)
                      (fits.next_with tested headed follows.parts means further)
                    taken := Nat.le_refl _
                    parts := agrees_nil }
      · simp only [OpenChain.divide?, headed, Option.map_none, Option.bind_eq_bind, Option.bind_none,
          Option.bind_fun_none]
        cases (state.release block).1.term (hasFunction builtins) condition with
        | error fault => exact .inl ⟨fault, rfl⟩
        | ok t => exact .inr ⟨_, _, rfl, nestFrom_nextArm_of_last last _ _ _ _ t⟩

theorem divide (follows : Follows p inside d state nest done) (rest : List Char) :
    Answers p nest done (state.divide (hasFunction builtins) rest) ((elseOrder? rest).bind d.obey?) := by
  rw [elseOrder?]
  cases more : rest.isEmpty with
  | true =>
      rw [List.isEmpty_iff.mp more]
      exact follows.otherwise
  | false =>
      have refused (unread : ∀ block outer, state.blocks = block :: outer →
          ∃ fault, state.divide (hasFunction builtins) rest = .error fault) :
          Answers p nest done (state.divide (hasFunction builtins) rest) none := by
        cases opened : state.blocks with
        | nil => exact .inl ⟨.strayElse, by rw [CompileState.divide, opened]⟩
        | cons block outer => exact .inl (unread block outer opened)
      cases split : Text.splitWord rest with
      | mk word condition =>
          cases given : condition.isEmpty with
          | true =>
              simp only [Bool.false_eq_true, if_false, given, if_true, Option.bind_none]
              refine refused fun block outer opened => ⟨.elseRest rest, ?_⟩
              rw [CompileState.divide, opened]
              simp only [more, Bool.false_eq_true, if_false, split, List.isEmpty_iff.mp given]
              cases Keyword.ofWord? word <;> rfl
          | false =>
              cases known : Keyword.ofWord? word with
              | some keyword =>
                  simpa [given, known] using follows.next more split known given
              | none =>
                  simp only [Bool.false_eq_true, if_false, given, known, Option.map_none, Option.bind_none]
                  refine refused fun block outer opened => ⟨.elseRest rest, ?_⟩
                  rw [CompileState.divide, opened]
                  simp only [more, Bool.false_eq_true, if_false, split, known]

/-- What a compiler makes of an action keeps it in step with the tree. -/
theorem action (follows : Follows p inside d state nest done) (body : List Char) :
    Answers p nest done (state.action (hasFunction builtins) body) ((order? body).bind d.obey?) := by
  rw [CompileState.action, order?, CompileState.isComment]
  split
  · split
    · exact ⟨state, [], inside, nest, done, rfl, fun more => rfl, follows⟩
    · exact .inl ⟨_, rfl⟩
  · rcases Text.splitWord body with ⟨word, behind⟩
    simp only
    generalize Text.trimEnd behind = rest
    cases Keyword.ofWord? word with
    | some keyword =>
        cases missing : rest.isEmpty with
        | true => exact .inl ⟨.noCondition keyword, rfl⟩
        | false => simpa [missing] using follows.openArm keyword rest
    | none =>
        by_cases divides : word = "else".toList
        · simp only [if_pos divides]
          exact follows.divide rest
        simp only [if_neg divides]
        by_cases closes : word = "end".toList
        · simp only [if_pos closes]
          cases rest with
          | nil => exact follows.close
          | cons c rest => exact .inl ⟨.endArgument, rfl⟩
        simp only [if_neg closes]
        cases unsupportedWords.contains (String.ofList word) with
        | true => exact .inl ⟨.unsupported word, rfl⟩
        | false => exact follows.print body

theorem piece (follows : Follows p inside d state nest done) (piece : Piece) :
    Answers p nest done (pieceTags (hasFunction builtins) state piece) (d.add? piece) := by
  cases piece with
  | text s => exact follows.text s
  | action a => exact follows.action a.body

/-! ## Runs -/

/-- The page of some pieces is nested to statements that agree with the tree of these, and there are no such
statements where there is no tree. -/
theorem complete (follows : Follows p inside d state nest done) (pieces : List Piece) :
    match d.complete? pieces with
    | some ns => ∃ last page ss, compileFrom (hasFunction builtins) state pieces = .ok (last, page) ∧
        last.blocks = [] ∧ nestFrom nest done page = .ok ss ∧ Agrees p 0 ss ns
    | none => ∀ last page, compileFrom (hasFunction builtins) state pieces = .ok (last, page) →
        last.blocks = [] → ∃ fault, nestFrom nest done page = .error fault := by
  induction pieces generalizing inside d state nest done with
  | nil =>
      obtain ⟨chains, parts⟩ := d
      rw [Draft.complete?]
      cases chains with
      | nil =>
          obtain ⟨opened, rfl, rfl⟩ := follows.blocks_eq_nil
          exact ⟨state, [], done.reverse, rfl, opened, rfl, follows.parts⟩
      | cons o outer =>
          obtain ⟨block, blocks, b, group, around, binding, bottom, opened, -⟩ := follows.innermost
          intro last page compiled ended
          cases compiled
          rw [opened] at ended
          cases ended
  | cons piece rest induction =>
      have answers := follows.piece piece
      rw [Draft.complete?, compileFrom]
      cases added : d.add? piece with
      | some d' =>
          rw [added] at answers
          obtain ⟨state', tags, inside', nest', done', compiled, nested, follows'⟩ := answers
          have later := induction follows'
          rw [compiled]
          simp only [Option.bind_some, ok_bind]
          cases whole : d'.complete? rest with
          | some ns =>
              rw [whole] at later
              obtain ⟨last, page, ss, compiledRest, ended, nestedRest, agrees⟩ := later
              exact ⟨last, tags ++ page, ss, by rw [compiledRest]; rfl, ended,
                (nested page).trans nestedRest, agrees⟩
          | none =>
              rw [whole] at later
              intro last page compiledAll ended
              cases compiledRest : compileFrom (hasFunction builtins) state' rest with
              | error fault =>
                  rw [compiledRest] at compiledAll
                  cases compiledAll
              | ok result =>
                  obtain ⟨last', page'⟩ := result
                  rw [compiledRest] at compiledAll
                  cases compiledAll
                  obtain ⟨fault, refused⟩ := later last' page' compiledRest ended
                  exact ⟨fault, (nested page').trans refused⟩
      | none =>
          rw [added] at answers
          intro last page compiledAll ended
          rcases answers with ⟨fault, refused⟩ | ⟨state', tags, compiled, refused⟩
          · rw [refused] at compiledAll
            cases compiledAll
          · rw [compiled, ok_bind] at compiledAll
            simp only at compiledAll
            cases compiledRest : compileFrom (hasFunction builtins) state' rest with
            | error fault =>
                rw [compiledRest] at compiledAll
                cases compiledAll
            | ok result =>
                rw [compiledRest] at compiledAll
                cases compiledAll
                exact refused result.2

end Follows

theorem follows_empty (p : Project.Parameters) : Follows p 0 {} {} [] [] where
  stack := .nil
  taken := Nat.le_refl 0
  parts := agrees_nil

/-- What is rendered is what the direct interpreter prints. -/
theorem toOption_render (p : Project.Parameters) (content : List Char) :
    (render builtins p content).toOption = render? p content := by
  have complete := (follows_empty p).complete (cut content)
  rw [render, toPage, compile, render?, tree?]
  cases whole : Draft.complete? {} (cut content) with
  | some ns =>
      rw [whole] at complete
      obtain ⟨last, page, ss, compiled, ended, nested, agrees⟩ := complete
      have run := agrees []
      have unbound : (environment p []).dot 0 = .none := rfl
      rw [unbound] at run
      simp only [compiled, ok_bind, ended, Page.nest, nested, Option.bind_eq_bind, Option.bind_some]
      cases printed : Node.printAll p .none ns with
      | none =>
          rw [printed] at run
          obtain ⟨fault, failed⟩ := run
          simp only [environment] at failed
          simp only [failed, toOption_error]
      | some text =>
          rw [printed] at run
          obtain ⟨fresh, ran, -⟩ := run
          simp only [environment] at ran
          simp only [ran, toOption_ok]
  | none =>
      rw [whole] at complete
      cases compiled : compileFrom (hasFunction builtins) {} (cut content) with
      | error fault => rfl
      | ok result =>
          obtain ⟨last, page⟩ := result
          cases opened : last.blocks with
          | cons block outer =>
              simp only [ok_bind, opened]
              rfl
          | nil =>
              obtain ⟨fault, refused⟩ := complete last page compiled opened
              simp only [ok_bind, opened, Page.nest, refused]
              rfl

end Stencil.Template.Direct
