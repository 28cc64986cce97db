import Stencil.Proofs.Template.Reading

/-!
# Statements and trees

Statements agree with the parts of a tree when they print the same text from whatever dots are bound, and
bind only numbers above that of the dot that they are run with.  Branches of statements agree with chains
of arms, one arm after the other.
-/

namespace Stencil.Template.Direct

variable {p : Project.Parameters} {binding : Nat}

/-! ## Dots -/

theorem dot_append (p : Project.Parameters) {fresh : List (Nat × Value)} (dots : List (Nat × Value))
    (above : ∀ bound ∈ fresh, binding < bound.1) :
    (environment p (fresh ++ dots)).dot binding = (environment p dots).dot binding := by
  have unseen : fresh.find? (·.1 = binding) = none := by
    rw [List.find?_eq_none]
    intro bound member same
    have := above bound member
    have := of_decide_eq_true same
    omega
  simp [Environment.dot, environment, List.find?_append, unseen]

@[simp]
theorem dot_cons (p : Project.Parameters) (v : Value) (dots : List (Nat × Value)) :
    (environment p ((binding, v) :: dots)).dot binding = v := by
  simp [Environment.dot, environment]

/-! ## Runs -/

@[simp]
theorem runAll_singleton (env : Environment) (s : Statement) :
    Statement.runAll env [s] = s.run env := by
  simp only [Statement.runAll]
  cases s.run env with
  | error fault => rfl
  | ok result => simp

@[simp]
theorem printAll_singleton (p : Project.Parameters) (dot : Value) (n : Node) :
    Node.printAll p dot [n] = n.print p dot := by
  simp only [Node.printAll]
  cases n.print p dot <;> simp

theorem runAll_append (env : Environment) (left right : List Statement) :
    Statement.runAll env (left ++ right) =
      (Statement.runAll env left).bind fun first =>
        (Statement.runAll first.2 right).map fun second => (first.1 ++ second.1, second.2) := by
  induction left generalizing env with
  | nil =>
      simp only [List.nil_append, Statement.runAll, Except.bind]
      cases Statement.runAll env right <;> rfl
  | cons s left induction =>
      simp only [List.cons_append, Statement.runAll, induction]
      cases s.run env with
      | error fault => rfl
      | ok result =>
          simp only [ok_bind]
          cases Statement.runAll result.2 left with
          | error fault => rfl
          | ok first =>
              simp only [ok_bind, Except.bind]
              cases Statement.runAll first.2 right with
              | error fault => rfl
              | ok second => simp [Except.map]

theorem printAll_append (p : Project.Parameters) (dot : Value) (left right : List Node) :
    Node.printAll p dot (left ++ right) =
      (Node.printAll p dot left).bind fun first =>
        (Node.printAll p dot right).map fun second => first ++ second := by
  induction left with
  | nil =>
      simp only [List.nil_append, Node.printAll]
      cases Node.printAll p dot right <;> rfl
  | cons n left induction =>
      simp only [List.cons_append, Node.printAll, induction]
      cases n.print p dot with
      | none => rfl
      | some s =>
          cases Node.printAll p dot left with
          | none => rfl
          | some first =>
              cases Node.printAll p dot right with
              | none => rfl
              | some second => simp

theorem run_branch_cons (env : Environment) (test : Term) (body : List Statement)
    (arms : List (Term × List Statement)) (otherwise : List Statement) :
    (Statement.branch ((test, body) :: arms) otherwise).run env =
      (test.eval env).bind fun v =>
        if v.isGiven then Statement.runAll env body else (Statement.branch arms otherwise).run env := by
  simp only [Statement.run, Statement.runArms]
  cases test.eval env with
  | error fault => rfl
  | ok v =>
      simp only [ok_bind, Except.bind]
      split
      · cases Statement.runAll env body <;> rfl
      · rfl

theorem print_chain_cons (p : Project.Parameters) (dot : Value) (keyword : Keyword)
    (condition : Expr) (body : List Node) (arms : List Arm) (otherwise : List Node) :
    (Node.chain ((keyword, condition, body) :: arms) otherwise).print p dot =
      (condition.value p dot).bind fun v =>
        if v.isGiven then Node.printAll p (armDot keyword dot v) body
        else (Node.chain arms otherwise).print p dot := by
  simp only [Node.print, Node.printArms]
  cases condition.value p dot with
  | none => rfl
  | some v =>
      simp only [Option.bind_eq_bind, Option.bind_some]
      split
      · cases Node.printAll p (armDot keyword dot v) body <;> rfl
      · rfl

/-! ## Agreement -/

/-- Statements print a text from some dots and bind only numbers above `binding`, or they fail. -/
def Runs (p : Project.Parameters) (binding : Nat) (dots : List (Nat × Value)) (ss : List Statement) :
    Option (List Char) → Prop
  | some text => ∃ fresh,
      Statement.runAll (environment p dots) ss = .ok (text, environment p (fresh ++ dots)) ∧
      ∀ bound ∈ fresh, binding < bound.1
  | none => ∃ fault, Statement.runAll (environment p dots) ss = .error fault

/-- Statements do what the parts of a tree say where the dot is bound under the number `binding`. -/
def Agrees (p : Project.Parameters) (binding : Nat) (ss : List Statement) (ns : List Node) : Prop :=
  ∀ dots, Runs p binding dots ss (Node.printAll p ((environment p dots).dot binding) ns)

theorem Runs.of_eq {dots : List (Nat × Value)} {ss : List Statement} {text : List Char}
    (run : Statement.runAll (environment p dots) ss = .ok (text, environment p dots)) :
    Runs p binding dots ss (some text) :=
  ⟨[], run, nofun⟩

theorem agrees_nil : Agrees p binding [] [] := fun dots => .of_eq (by simp [Statement.runAll])

theorem agrees_data (s : List Char) : Agrees p binding [.data s] [.text s] := by
  intro dots
  rw [printAll_singleton, Node.print]
  exact .of_eq (by rw [runAll_singleton, Statement.run])

theorem agrees_literal (s : List Char) : Agrees p binding [.output (.text s)] [.text s] := by
  intro dots
  rw [printAll_singleton, Node.print]
  refine .of_eq ?_
  rw [runAll_singleton, Statement.run, Term.eval]
  rfl

theorem agrees_noText : Agrees p binding [] [.text []] := by
  intro dots
  rw [printAll_singleton, Node.print]
  exact .of_eq (by rw [Statement.runAll])

theorem agrees_output {e : Expr} {t : Term} (means : Means p binding e t) :
    Agrees p binding [.output t] [.value e] := by
  intro dots
  rw [printAll_singleton, Node.print, ← means.value dots]
  cases run : t.eval (environment p dots) with
  | error fault =>
      refine ⟨fault, ?_⟩
      rw [runAll_singleton, Statement.run, run]
      rfl
  | ok v =>
      refine .of_eq ?_
      rw [runAll_singleton, Statement.run, run]
      rfl

theorem Agrees.append {ss ss' : List Statement} {ns ns' : List Node} (first : Agrees p binding ss ns)
    (second : Agrees p binding ss' ns') : Agrees p binding (ss ++ ss') (ns ++ ns') := by
  intro dots
  have left := first dots
  rw [printAll_append]
  cases printed : Node.printAll p ((environment p dots).dot binding) ns with
  | none =>
      rw [printed] at left
      obtain ⟨fault, run⟩ := left
      exact ⟨fault, by rw [runAll_append, run]; rfl⟩
  | some text =>
      rw [printed] at left
      obtain ⟨fresh, run, above⟩ := left
      have right := second (fresh ++ dots)
      rw [dot_append p dots above] at right
      cases printed' : Node.printAll p ((environment p dots).dot binding) ns' with
      | none =>
          rw [printed'] at right
          obtain ⟨fault, run'⟩ := right
          refine ⟨fault, ?_⟩
          simp only [runAll_append, run, Except.bind, run']
          rfl
      | some text' =>
          rw [printed'] at right
          obtain ⟨fresh', run', above'⟩ := right
          refine ⟨fresh' ++ fresh, ?_, ?_⟩
          · simp only [runAll_append, run, Except.bind, run', Except.map, List.append_assoc]
          · intro bound member
            rcases List.mem_append.mp member with later | earlier
            · exact above' bound later
            · exact above bound earlier

/-! ## Branches -/

theorem Agrees.branch_nil {ss : List Statement} {ns : List Node} (agrees : Agrees p binding ss ns) :
    Agrees p binding [.branch [] ss] ns := by
  intro dots
  have run : Statement.runAll (environment p dots) [.branch [] ss] =
      Statement.runAll (environment p dots) ss := by
    rw [runAll_singleton, Statement.run, Statement.runArms]
    rfl
  simpa only [Runs, run] using agrees dots

theorem Agrees.chain_nil {ss : List Statement} {ns : List Node} (agrees : Agrees p binding ss ns) :
    Agrees p binding ss [.chain [] ns] := by
  intro dots
  have print : Node.printAll p ((environment p dots).dot binding) [.chain [] ns] =
      Node.printAll p ((environment p dots).dot binding) ns := by
    rw [printAll_singleton, Node.print, Node.printArms]
    rfl
  rw [print]
  exact agrees dots

/-- Statements that run as others do behind some dots that are bound first. -/
theorem Runs.behind {inside : Nat} (first : List (Nat × Value)) {dots : List (Nat × Value)}
    {ss ss' : List Statement}
    {printed : Option (List Char)} (runs : Runs p inside (first ++ dots) ss printed)
    (above : ∀ bound ∈ first, binding < bound.1) (further : binding ≤ inside)
    (same : Statement.runAll (environment p dots) ss' =
      Statement.runAll (environment p (first ++ dots)) ss) :
    Runs p binding dots ss' printed := by
  cases printed with
  | none =>
      obtain ⟨fault, run⟩ := runs
      exact ⟨fault, same.trans run⟩
  | some text =>
      obtain ⟨fresh, run, aboveInside⟩ := runs
      refine ⟨fresh ++ first, ?_, ?_⟩
      · rw [same, run, List.append_assoc]
      · intro bound member
        rcases List.mem_append.mp member with later | earlier
        · have := aboveInside bound later
          omega
        · exact above bound earlier

theorem Means.branch_if {e : Expr} {t : Term} {ss : List Statement} {ns : List Node}
    {arms : List (Term × List Statement)} {otherwise : List Statement} {arms' : List Arm}
    {otherwise' : List Node} (means : Means p binding e t) (body : Agrees p binding ss ns)
    (others : Agrees p binding [.branch arms otherwise] [.chain arms' otherwise']) :
    Agrees p binding [.branch ((t, ss) :: arms) otherwise]
      [.chain ((.ifBlock, e, ns) :: arms') otherwise'] := by
  intro dots
  have run : Statement.runAll (environment p dots) [.branch ((t, ss) :: arms) otherwise] =
      (t.eval (environment p dots)).bind fun v =>
        if v.isGiven then Statement.runAll (environment p dots) ss
        else Statement.runAll (environment p dots) [.branch arms otherwise] := by
    simp only [runAll_singleton, run_branch_cons]
  rw [printAll_singleton, print_chain_cons, ← means.value dots]
  cases tested : t.eval (environment p dots) with
  | error fault =>
      refine ⟨fault, ?_⟩
      rw [run, tested]
      rfl
  | ok v =>
      simp only [tested, Except.bind] at run
      simp only [toOption_ok, Option.bind_some, armDot]
      split
      · rename_i given
        rw [if_pos given] at run
        exact (body dots).behind [] nofun (Nat.le_refl _) run
      · rename_i missing
        rw [if_neg missing] at run
        rw [← printAll_singleton]
        exact (others dots).behind [] nofun (Nat.le_refl _) run

theorem Means.branch_with {inside : Nat} {e : Expr} {t : Term} {ss : List Statement}
    {ns : List Node} {arms : List (Term × List Statement)} {otherwise : List Statement}
    {arms' : List Arm} {otherwise' : List Node} (means : Means p binding e t)
    (further : binding < inside) (body : Agrees p inside ss ns)
    (others : Agrees p binding [.branch arms otherwise] [.chain arms' otherwise']) :
    Agrees p binding [.assign inside t, .branch ((.dot inside, ss) :: arms) otherwise]
      [.chain ((.withBlock, e, ns) :: arms') otherwise'] := by
  intro dots
  have run : Statement.runAll (environment p dots)
        [.assign inside t, .branch ((.dot inside, ss) :: arms) otherwise] =
      (t.eval (environment p dots)).bind fun v =>
        if v.isGiven then Statement.runAll (environment p ((inside, v) :: dots)) ss
        else Statement.runAll (environment p ((inside, v) :: dots)) [.branch arms otherwise] := by
    rw [← List.singleton_append, runAll_append, runAll_singleton, Statement.run]
    cases t.eval (environment p dots) with
    | error fault => rfl
    | ok v =>
        have behind : Statement.runAll (environment p ((inside, v) :: dots))
              [.branch ((.dot inside, ss) :: arms) otherwise] =
            if v.isGiven then Statement.runAll (environment p ((inside, v) :: dots)) ss
            else Statement.runAll (environment p ((inside, v) :: dots)) [.branch arms otherwise] := by
          rw [runAll_singleton, run_branch_cons, Term.eval, dot_cons, Except.bind, runAll_singleton]
        rw [Except.bind, ← behind]
        exact congrFun Except.map_id _
  rw [printAll_singleton, print_chain_cons, ← means.value dots]
  cases tested : t.eval (environment p dots) with
  | error fault =>
      refine ⟨fault, ?_⟩
      rw [run, tested]
      rfl
  | ok v =>
      simp only [tested, Except.bind] at run
      simp only [toOption_ok, Option.bind_some, armDot]
      have above : ∀ bound ∈ [(inside, v)], binding < bound.1 := by
        intro bound member
        rw [List.mem_singleton.mp member]
        exact further
      split
      · rename_i given
        rw [if_pos given] at run
        have runs := body ((inside, v) :: dots)
        rw [dot_cons] at runs
        exact runs.behind [(inside, v)] above (Nat.le_of_lt further) run
      · rename_i missing
        rw [if_neg missing] at run
        have runs := others ((inside, v) :: dots)
        rw [← List.singleton_append, dot_append p dots above, printAll_singleton] at runs
        exact runs.behind [(inside, v)] above (Nat.le_refl _) run

end Stencil.Template.Direct
