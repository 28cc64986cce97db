import Stencil.Work

/-!
# What steps ensure

Steps that change a state and may fail ensure something of the value and the state that they end with, or
of the fault and the state.  What they ensure follows the way in which they are put together.
-/

namespace Stencil

variable {ε σ α β : Type}

theorem run_bind (steps : ExceptT ε (StateM σ) α) (next : α → ExceptT ε (StateM σ) β) (s : σ) :
    (steps >>= next).run s = match steps.run s with
      | (.ok a, t) => (next a).run t
      | (.error fault, t) => (.error fault, t) := by
  change (ExceptT.bindCont next (steps.run s).1) (steps.run s).2 = _
  rcases steps.run s with ⟨_ | _, t⟩ <;> rfl

theorem run_pure (a : α) (s : σ) : (pure a : ExceptT ε (StateM σ) α).run s = (.ok a, s) := rfl

theorem run_throw (fault : ε) (s : σ) : (throw fault : ExceptT ε (StateM σ) α).run s = (.error fault, s) := rfl

theorem run_bind_eq_ok_iff {steps : ExceptT ε (StateM σ) α} {next : α → ExceptT ε (StateM σ) β} {s : σ} {b : β}
    {t : σ} : (steps >>= next).run s = (.ok b, t) ↔
      ∃ a s', steps.run s = (.ok a, s') ∧ (next a).run s' = (.ok b, t) := by
  rw [run_bind]
  rcases steps.run s with ⟨_ | a, s'⟩
  · constructor
    · intro same
      cases same
    · rintro ⟨a, t', same, -⟩
      cases same
  · constructor
    · intro ends
      exact ⟨a, s', rfl, ends⟩
    · rintro ⟨a', t', same, ends⟩
      cases same
      exact ends

/-- Steps come to a value if the first ones do, and from there the ones that follow. -/
theorem run_bind_ok_iff {steps : ExceptT ε (StateM σ) α} {next : α → ExceptT ε (StateM σ) β} {s : σ} :
    (∃ b t, (steps >>= next).run s = (.ok b, t)) ↔
      ∃ a t, steps.run s = (.ok a, t) ∧ ∃ b t', (next a).run t = (.ok b, t') := by
  rw [run_bind]
  rcases steps.run s with ⟨_ | a, t⟩
  · exact iff_of_false nofun nofun
  · exact ⟨fun ends => ⟨a, t, rfl, ends⟩, fun ⟨_, _, same, ends⟩ => by cases same; exact ends⟩

/-- Steps from a state end with a value or with a fault, and with a state, of which something holds. -/
def Ensures (steps : ExceptT ε (StateM σ) α) (s : σ) (returns : α → σ → Prop) (fails : ε → σ → Prop) :
    Prop :=
  match steps.run s with
  | (.ok a, t) => returns a t
  | (.error fault, t) => fails fault t

namespace Ensures

variable {steps : ExceptT ε (StateM σ) α} {s : σ} {returns : α → σ → Prop} {fails : ε → σ → Prop}

theorem mono {returns' : α → σ → Prop} {fails' : ε → σ → Prop} (ensures : Ensures steps s returns fails)
    (value : ∀ a t, returns a t → returns' a t) (fault : ∀ e t, fails e t → fails' e t) :
    Ensures steps s returns' fails' := by
  unfold Ensures at *
  rcases first : steps.run s with ⟨_ | _, t⟩
  · rw [first] at ensures
    exact fault _ _ ensures
  · rw [first] at ensures
    exact value _ _ ensures

theorem trivial (steps : ExceptT ε (StateM σ) α) (s : σ) :
    Ensures steps s (fun _ _ => True) fun _ _ => True := by
  unfold Ensures
  split <;> exact True.intro

theorem pure {a : α} (holds : returns a s) :
    Ensures (pure a : ExceptT ε (StateM σ) α) s returns fails := holds

theorem throw {fault : ε} (holds : fails fault s) :
    Ensures (throw fault : ExceptT ε (StateM σ) α) s returns fails := holds

theorem get {returns : σ → σ → Prop} (holds : returns s s) :
    Ensures (get : ExceptT ε (StateM σ) σ) s returns fails := holds

theorem set {t : σ} {returns : PUnit → σ → Prop} (holds : returns ⟨⟩ t) :
    Ensures (set t : ExceptT ε (StateM σ) PUnit) s returns fails := holds

theorem modify {f : σ → σ} {returns : PUnit → σ → Prop} (holds : returns ⟨⟩ (f s)) :
    Ensures (modify f : ExceptT ε (StateM σ) PUnit) s returns fails := holds

theorem bind {next : α → ExceptT ε (StateM σ) β} {returns : β → σ → Prop}
    (ensures : Ensures steps s (fun a t => Ensures (next a) t returns fails) fails) :
    Ensures (steps >>= next) s returns fails := by
  unfold Ensures at *
  rw [run_bind]
  rcases first : steps.run s with ⟨_ | _, t⟩
  · rw [first] at ensures
    exact ensures
  · rw [first] at ensures
    exact ensures

theorem tryCatch {handle : ε → ExceptT ε (StateM σ) α}
    (ensures : Ensures steps s returns fun fault t => Ensures (handle fault) t returns fails) :
    Ensures (tryCatch steps handle) s returns fails := by
  unfold Ensures at *
  -- Handling looks at the steps only through their outcome.
  have outcome : (MonadExcept.tryCatch steps handle).run s =
      (MonadExcept.tryCatch (ExceptT.mk fun _ => steps.run s) handle).run s := rfl
  rw [outcome]
  rcases first : steps.run s with ⟨_ | _, t⟩
  · rw [first] at ensures
    exact ensures
  · rw [first] at ensures
    exact ensures

/-- What every step of a run keeps holds at its end. -/
theorem foldlM {step : β → α → ExceptT ε (StateM σ) β} {items : List α} {holds : β → σ → Prop}
    (keeps : ∀ b, ∀ a ∈ items, ∀ t, holds b t → Ensures (step b a) t holds fails) {b : β}
    (start : holds b s) : Ensures (items.foldlM step b) s holds fails := by
  induction items generalizing b s with
  | nil => exact start
  | cons a items induction =>
      rw [List.foldlM_cons]
      have first := keeps b a List.mem_cons_self s start
      refine bind (first.mono (fun b' t kept => ?_) fun _ _ failed => failed)
      exact induction (fun b a known => keeps b a (List.mem_cons_of_mem _ known)) kept

theorem forM {step : α → ExceptT ε (StateM σ) PUnit} {items : List α} {holds : σ → Prop}
    (keeps : ∀ a ∈ items, ∀ t, holds t → Ensures (step a) t (fun _ => holds) fails) (start : holds s) :
    Ensures (items.forM step) s (fun _ => holds) fails := by
  induction items generalizing s with
  | nil => exact start
  | cons a items induction =>
      have first := keeps a List.mem_cons_self s start
      refine bind (first.mono (fun _ t kept => ?_) fun _ _ failed => failed)
      exact induction (fun a known => keeps a (List.mem_cons_of_mem _ known)) kept

/-- Steps end in one of the two ways. -/
theorem outcome (ensures : Ensures steps s returns fails) :
    (∃ a t, steps.run s = (.ok a, t) ∧ returns a t) ∨
      ∃ fault t, steps.run s = (.error fault, t) ∧ fails fault t := by
  unfold Ensures at ensures
  rcases ran : steps.run s with ⟨fault | a, t⟩
  · rw [ran] at ensures
    exact .inr ⟨fault, t, rfl, ensures⟩
  · rw [ran] at ensures
    exact .inl ⟨a, t, rfl, ensures⟩

theorem and {returns' : α → σ → Prop} {fails' : ε → σ → Prop} (ensures : Ensures steps s returns fails)
    (also : Ensures steps s returns' fails') :
    Ensures steps s (fun a t => returns a t ∧ returns' a t) fun fault t => fails fault t ∧ fails' fault t := by
  unfold Ensures at *
  rcases ran : steps.run s with ⟨_ | _, t⟩
  · rw [ran] at ensures also
    exact ⟨ensures, also⟩
  · rw [ran] at ensures also
    exact ⟨ensures, also⟩

theorem run_eq {x : Except ε α × σ}
    (ensures : Ensures steps s (fun a t => (.ok a, t) = x) fun fault t => (.error fault, t) = x) :
    steps.run s = x := by
  obtain ⟨a, t, ran, same⟩ | ⟨fault, t, ran, same⟩ := ensures.outcome
  · exact ran.trans same
  · exact ran.trans same

end Ensures

/-- Steps keep what holds of the state, whether they end with a value or with a fault. -/
def Keeps (steps : ExceptT ε (StateM σ) α) (holds : σ → Prop) : Prop :=
  ∀ s, holds s → Ensures steps s (fun _ => holds) fun _ => holds

namespace Keeps

variable {steps : ExceptT ε (StateM σ) α} {holds : σ → Prop}

theorem state (keeps : Keeps steps holds) {s : σ} (start : holds s) : holds (steps.run s).2 := by
  have ensures := keeps s start
  unfold Ensures at ensures
  split at ensures
  · rename_i run
    rwa [run]
  · rename_i run
    rwa [run]

theorem ensures_run (keeps : Keeps steps holds) {s : σ} (start : holds s) :
    Ensures steps s (fun a t => steps.run s = (.ok a, t) ∧ holds t) fun _ => holds := by
  have ensures := keeps s start
  unfold Ensures at *
  rcases ran : steps.run s with ⟨_ | _, t⟩
  · rw [ran] at ensures
    exact ensures
  · rw [ran] at ensures
    exact ⟨rfl, ensures⟩

theorem pure (a : α) : Keeps (Pure.pure a : ExceptT ε (StateM σ) α) holds :=
  fun _ start => .pure start

theorem throw (fault : ε) : Keeps (throw fault : ExceptT ε (StateM σ) α) holds :=
  fun _ start => .throw start

theorem bind {next : α → ExceptT ε (StateM σ) β} (keeps : Keeps steps holds)
    (keepsOn : ∀ a, Keeps (next a) holds) : Keeps (steps >>= next) holds :=
  fun s start => .bind ((keeps s start).mono (fun a t held => keepsOn a t held) fun _ _ held => held)

theorem tryCatch {handle : ε → ExceptT ε (StateM σ) α} (keeps : Keeps steps holds)
    (keepsOn : ∀ fault, Keeps (handle fault) holds) : Keeps (tryCatch steps handle) holds :=
  fun s start =>
    .tryCatch ((keeps s start).mono (fun _ _ held => held) fun fault t held => keepsOn fault t held)

theorem foldlM {step : β → α → ExceptT ε (StateM σ) β} {items : List α}
    (keeps : ∀ b, ∀ a ∈ items, Keeps (step b a) holds) (b : β) : Keeps (items.foldlM step b) holds :=
  fun _ start => .foldlM (fun b a known t held => keeps b a known t held) start

end Keeps

namespace Work

variable {holds : Disk → Prop}

/-- What an operation on the disk ensures is ensured of the work that does it. -/
theorem ensures_change {failure : Disk.Fault → ε} {operation : Disk.Change α} {w : Workspace}
    {after : Disk → Prop} {stopped : Disk.Fault → Prop}
    (ensures : Ensures operation w.disk (fun _ d => after d) fun fault _ => stopped fault) :
    Ensures (change failure operation) w (fun _ t => after t.disk)
      fun e _ => ∃ fault, stopped fault ∧ e = failure fault := by
  obtain ⟨a, d, ran, held⟩ | ⟨fault, d, ran, failed⟩ := ensures.outcome
  · refine .bind (.get ?_)
    rw [ran]
    exact .bind (.set (.pure held))
  · refine .bind (.get ?_)
    rw [ran]
    exact .bind (.set (.throw ⟨fault, failed, rfl⟩))

theorem keeps_report (level : Log.Level) (message : String) :
    Keeps (report level message : Work ε Unit) fun w => holds w.disk :=
  fun _ start => .modify start

theorem keeps_change {failure : Disk.Fault → ε} {operation : Disk.Change α}
    (keeps : Keeps operation holds) :
    Keeps (change failure operation) fun w => holds w.disk := by
  intro w start
  have held := keeps.state start
  refine .bind (.get ?_)
  refine .bind (.set ?_)
  split
  · exact .pure held
  · exact .throw held

end Work

end Stencil
