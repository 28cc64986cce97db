import Mathlib
import Stencil.Proofs.Decimal.Binary64
import Stencil.Retry

/-!
# Attempts

A call is made again until it comes to a value, its failure is not worth another attempt, or the attempts are
used up.  How often it is made, what is waited in between and what comes of it are told by the outcomes that
the call has one after the other.
-/

namespace Stencil

open Data (Number)

namespace Data.Number

/-- Whether a number is whole and exceeds all binary numbers. -/
def Exceeds : Number → Prop
  | whole n => Decimal.Binary64.Exceeds n
  | binary _ => False

theorem toBinary?_eq_none_iff {n : Number} : n.toBinary? = none ↔ n.Exceeds := by
  cases n with
  | binary x => simp [toBinary?, Exceeds]
  | whole n =>
      have finite := Decimal.Binary64.exists_finite_ofInt_iff (n := n)
      rw [Exceeds, ← not_iff_not, ← finite, toBinary?]
      cases near : Decimal.Binary64.ofInt n with
      | finite negative m e => simp
      | infinite negative => simp
      | nan =>
          simp only [Decimal.Binary64.ofInt, Decimal.Binary64.ofQuotient] at near
          split_ifs at near

theorem fixedText?_eq_none_iff {n : Number} {places : Nat} : n.fixedText? places = none ↔ n.Exceeds := by
  rw [fixedText?, Option.map_eq_none_iff, toBinary?_eq_none_iff]

end Data.Number

namespace RetryPolicy

variable {ε α ι : Type} (policy : RetryPolicy ε)

/-! ## Waits -/

/-- The wait behind each failure, counted from zero. -/
def waitAt : Nat → Option Number
  | 0 => some policy.delay
  | i + 1 => (waitAt i).bind (·.mul? policy.backoff)

/-- Whether the wait behind a failure can be told in seconds, and the next one can be computed. -/
def Measured (i : Nat) : Prop :=
  ∃ wait next, policy.waitAt i = some wait ∧ ¬wait.Exceeds ∧ policy.waitAt (i + 1) = some next

theorem waitAt_of_binary {delay factor : Decimal.Binary64} (first : policy.delay = .binary delay)
    (grows : policy.backoff = .binary factor) (i : Nat) : ∃ x, policy.waitAt i = some (.binary x) := by
  induction i with
  | zero => exact ⟨delay, by rw [waitAt, first]⟩
  | succ i induction =>
      obtain ⟨x, wait⟩ := induction
      exact ⟨x.mul factor, by rw [waitAt, wait, grows]; rfl⟩

/-- Binary waits are always measured. -/
theorem measured_of_binary {delay factor : Decimal.Binary64} (first : policy.delay = .binary delay)
    (grows : policy.backoff = .binary factor) (i : Nat) : policy.Measured i := by
  obtain ⟨x, wait⟩ := policy.waitAt_of_binary first grows i
  obtain ⟨y, next⟩ := policy.waitAt_of_binary first grows (i + 1)
  exact ⟨_, _, wait, not_false, next⟩

/-! ## Attempts -/

section Step

variable {policy} {S : Type} [Patient (StateM S)] {call : StateM S (Except ε α)} {name : String}
  {more attempt : Nat} {wait : Number} {s t : S} {failure : ε}

theorem runFrom_of_ok {a : α} (made : call s = (.ok a, t)) :
    policy.runFrom name call more attempt wait s = (.ok a, t) := by
  cases more with
  | zero => exact made
  | succ more =>
      rw [runFrom]
      simp only [bind, StateT.bind, made]
      rfl

theorem runFrom_of_rejected (made : call s = (.error failure, t)) (rejected : policy.retries failure = false) :
    policy.runFrom name call more attempt wait s = (.error failure, t) := by
  cases more with
  | zero => exact made
  | succ more =>
      rw [runFrom]
      simp only [bind, StateT.bind, made, rejected]
      rfl

/-- What is done between a failure and the next attempt. -/
def pause (policy : RetryPolicy ε) (name : String) (attempt : Nat) (failure : ε) (seconds : String)
    (wait : Number) : StateM S Unit := do
  Patient.report .warning (policy.failureLine name attempt failure)
  Patient.report .info (waitLine seconds)
  Patient.wait wait

theorem runFrom_again {seconds : String} {next : Number} (made : call s = (.error failure, t))
    (accepted : policy.retries failure = true) (told : wait.fixedText? 1 = some seconds)
    (grown : wait.mul? policy.backoff = some next) :
    policy.runFrom name call (more + 1) attempt wait s =
      policy.runFrom name call more (attempt + 1) next (policy.pause name attempt failure seconds wait t).2 := by
  rw [runFrom, pause]
  simp only [bind, StateT.bind, made, accepted, if_true, told, grown]
  rfl

/-- A run fails where the seconds of a wait cannot be told. -/
theorem runFrom_of_untold (made : call s = (.error failure, t)) (accepted : policy.retries failure = true)
    (untold : wait.fixedText? 1 = none) :
    policy.runFrom name call (more + 1) attempt wait s = (.error policy.immeasurable,
      ((Patient.report .warning (policy.failureLine name attempt failure) : StateM S Unit) t).2) := by
  rw [runFrom]
  simp only [bind, StateT.bind, made, accepted, if_true, untold]
  rfl

/-- A run fails behind a wait from which the next one cannot be computed. -/
theorem runFrom_of_ungrown {seconds : String} (made : call s = (.error failure, t))
    (accepted : policy.retries failure = true) (told : wait.fixedText? 1 = some seconds)
    (ungrown : wait.mul? policy.backoff = none) :
    policy.runFrom name call (more + 1) attempt wait s =
      (.error policy.immeasurable, (policy.pause name attempt failure seconds wait t).2) := by
  rw [runFrom, pause]
  simp only [bind, StateT.bind, made, accepted, if_true, told, ungrown]
  rfl

end Step

/-- A call whose outcomes are foretold, in states that tell how often it was made and what was waited. -/
structure Foretold {S : Type} [Patient (StateM S)] (call : StateM S (Except ε α))
    (outcome : Nat → Except ε α) (At : Nat → List Number → S → Prop) : Prop where
  /-- What comes of one more call. -/
  call : ∀ {i waits s}, At i waits s → ∃ t, call s = (outcome i, t) ∧ At (i + 1) waits t
  /-- Records change nothing. -/
  report : ∀ {i waits s} level message, At i waits s →
    At i waits ((Patient.report level message : StateM S Unit) s).2
  /-- A wait comes behind the others. -/
  wait : ∀ {i waits s} seconds, At i waits s →
    At i (waits ++ [seconds]) ((Patient.wait seconds : StateM S Unit) s).2

/-- Whether a run ends with a call, the calls being counted from zero. -/
def EndsAt (outcome : Nat → Except ε α) (i : Nat) : Prop :=
  (∀ failure, outcome i = .error failure → policy.retries failure = false) ∨ policy.maxAttempts ≤ i + 1

theorem not_endsAt_iff {outcome : Nat → Except ε α} {i : Nat} :
    ¬policy.EndsAt outcome i ↔
      (∃ failure, outcome i = .error failure ∧ policy.retries failure = true) ∧ i + 1 < policy.maxAttempts := by
  simp [EndsAt]

/-- How often a call is made at most behind one of its calls. -/
def further (i : Nat) : Nat :=
  (policy.maxAttempts - 1 - i).toNat

namespace Foretold

variable {policy} {S : Type} [Patient (StateM S)] {call : StateM S (Except ε α)}
  {outcome : Nat → Except ε α} {At : Nat → List Number → S → Prop} (foretold : Foretold call outcome At)
  {name : String} {i : Nat} {waits : List Number} {wait : Number} {s : S}

include foretold

/-- A run that ends with a call has its outcome. -/
theorem runFrom_of_endsAt (here : At i waits s) (ends : policy.EndsAt outcome i) :
    ∃ t, policy.runFrom name call (policy.further i) (i + 1) wait s = (outcome i, t) ∧ At (i + 1) waits t := by
  obtain ⟨t, made, after⟩ := foretold.call here
  refine ⟨t, ?_, after⟩
  rcases ends with rejected | last
  · cases same : outcome i with
    | ok a => exact runFrom_of_ok (same ▸ made)
    | error failure => exact runFrom_of_rejected (same ▸ made) (rejected failure same)
  · have none : policy.further i = 0 := by
      rw [further]
      omega
    rw [none, runFrom, made]

/-- A run that does not end with a call goes on behind a wait that is measured. -/
theorem runFrom_of_measured (here : At i waits s) (goesOn : ¬policy.EndsAt outcome i)
    (now : policy.waitAt i = some wait) (measured : policy.Measured i) :
    ∃ t next, policy.waitAt (i + 1) = some next ∧ At (i + 1) (waits ++ [wait]) t ∧
      policy.runFrom name call (policy.further i) (i + 1) wait s =
        policy.runFrom name call (policy.further (i + 1)) (i + 2) next t := by
  obtain ⟨⟨failure, failed, accepted⟩, early⟩ := policy.not_endsAt_iff.mp goesOn
  obtain ⟨wait', next, now', small, then'⟩ := measured
  obtain rfl := Option.some.inj (now.symm.trans now')
  have told : ∃ seconds, wait.fixedText? 1 = some seconds :=
    Option.ne_none_iff_exists'.mp (mt Number.fixedText?_eq_none_iff.mp small)
  obtain ⟨seconds, told⟩ := told
  obtain ⟨t, made, after⟩ := foretold.call here
  have grown : wait.mul? policy.backoff = some next := by
    rwa [waitAt, now, Option.bind_some] at then'
  have left : policy.further i = policy.further (i + 1) + 1 := by
    rw [further, further]
    omega
  refine ⟨(policy.pause name (i + 1) failure seconds wait t).2, next, then', ?_, ?_⟩
  · exact foretold.wait wait (foretold.report _ _ (foretold.report _ _ after))
  · rw [left]
    exact runFrom_again (failed ▸ made) accepted told grown

/-- A run that does not end with a call fails where the wait behind it is not measured. -/
theorem runFrom_of_not_measured (here : At i waits s) (goesOn : ¬policy.EndsAt outcome i)
    (now : policy.waitAt i = some wait) (unmeasured : ¬policy.Measured i) :
    ∃ t waits', policy.runFrom name call (policy.further i) (i + 1) wait s = (.error policy.immeasurable, t) ∧
      At (i + 1) waits' t := by
  obtain ⟨⟨failure, failed, accepted⟩, early⟩ := policy.not_endsAt_iff.mp goesOn
  obtain ⟨t, made, after⟩ := foretold.call here
  rw [failed] at made
  have left : policy.further i = policy.further (i + 1) + 1 := by
    rw [further, further]
    omega
  rw [left]
  cases told : wait.fixedText? 1 with
  | none => exact ⟨_, _, runFrom_of_untold made accepted told, foretold.report _ _ after⟩
  | some seconds =>
      have small : ¬wait.Exceeds := by
        rw [← Number.fixedText?_eq_none_iff, told]
        exact Option.some_ne_none seconds
      have ungrown : wait.mul? policy.backoff = none := by
        refine Option.eq_none_iff_forall_ne_some.mpr fun next grown => unmeasured ⟨wait, next, now, small, ?_⟩
        rw [waitAt, now, Option.bind_some, grown]
      refine ⟨_, waits ++ [wait], runFrom_of_ungrown made accepted told ungrown, ?_⟩
      exact foretold.wait wait (foretold.report _ _ (foretold.report _ _ after))

/-- A run goes on up to a call if no call before that ends it and all waits up to there are measured. -/
theorem run_reaches (start : At 0 [] s) (goesOn : ∀ j < i, ¬policy.EndsAt outcome j)
    (measured : ∀ j < i, policy.Measured j) :
    ∃ t wait waits, policy.waitAt i = some wait ∧ waits.map some = (List.range i).map policy.waitAt ∧
      At i waits t ∧
      policy.run name call s = policy.runFrom name call (policy.further i) (i + 1) wait t := by
  induction i with
  | zero =>
      have all : policy.further 0 = (policy.maxAttempts - 1).toNat := by
        rw [further]
        omega
      exact ⟨s, policy.delay, [], rfl, rfl, start, by rw [run, all]⟩
  | succ i induction =>
      obtain ⟨t, wait, waits, now, passed, here, same⟩ :=
        induction (fun j before => goesOn j (by omega)) fun j before => measured j (by omega)
      obtain ⟨t', next, then', here', same'⟩ :=
        foretold.runFrom_of_measured here (goesOn i (by omega)) now (measured i (by omega))
      refine ⟨t', next, waits ++ [wait], then', ?_, here', same.trans same'⟩
      rw [List.range_succ, List.map_append, List.map_append, passed, List.map_singleton, List.map_singleton, now]

/-- A run makes the call up to the first time that ends it, or up to the first wait that is not measured. -/
theorem run_eq (policy : RetryPolicy ε) (name : String) (start : At 0 [] s) :
    ∃ k, IsLeast {k | policy.EndsAt outcome k} k ∧
      (((∀ i < k, policy.Measured i) ∧ ∃ t waits, policy.run name call s = (outcome k, t) ∧
          waits.map some = (List.range k).map policy.waitAt ∧ At (k + 1) waits t) ∨
        ∃ i < k, ¬policy.Measured i ∧ ∃ t waits, policy.run name call s = (.error policy.immeasurable, t) ∧
          At (i + 1) waits t) := by
  classical
  have ends : ∃ k, policy.EndsAt outcome k := ⟨policy.maxAttempts.toNat, .inr (by omega)⟩
  have least : IsLeast {k | policy.EndsAt outcome k} (Nat.find ends) :=
    ⟨Nat.find_spec ends, fun k => Nat.find_min' ends⟩
  have goesOn : ∀ j < Nat.find ends, ¬policy.EndsAt outcome j := fun j => Nat.find_min ends
  refine ⟨Nat.find ends, least, ?_⟩
  by_cases measured : ∀ i < Nat.find ends, policy.Measured i
  · obtain ⟨t, wait, waits, -, passed, here, same⟩ := foretold.run_reaches start goesOn measured
    obtain ⟨t', last, after⟩ := foretold.runFrom_of_endsAt here least.1
    exact .inl ⟨measured, t', waits, same.trans last, passed, after⟩
  · have early : ∃ i, i < Nat.find ends ∧ ¬policy.Measured i := by
      simpa using measured
    obtain ⟨before, unmeasured⟩ := Nat.find_spec early
    have reached : ∀ j < Nat.find early, policy.Measured j := fun j less =>
      not_not.mp fun missed => Nat.find_min early less ⟨less.trans before, missed⟩
    obtain ⟨t, wait, waits, now, -, here, same⟩ :=
      foretold.run_reaches start (fun j less => goesOn j (less.trans before)) reached
    obtain ⟨t', waits', last, after⟩ := foretold.runFrom_of_not_measured here (goesOn _ before) now unmeasured
    exact .inr ⟨_, before, unmeasured, t', waits', same.trans last, after⟩

end Foretold

/-! ## Calls that fail for some time -/

/-- What a call that fails for some time goes through. -/
structure Course (ε ι : Type) where
  /-- The failures to come. -/
  failures : List ε
  /-- What the call was given each time. -/
  given : List ι := []
  /-- What was waited in between. -/
  waits : List Number := []
  /-- The records made. -/
  log : List Log.Entry := []

instance : Patient (StateM (Course ε ι)) where
  report level message := modify fun course => { course with log := course.log ++ [⟨level, message⟩] }
  wait seconds := modify fun course => { course with waits := course.waits ++ [seconds] }

/-- The outcome of a call that fails some times, and then comes to a value. -/
def outcomeAt (value : α) (failures : List ε) (i : Nat) : Except ε α :=
  (failures[i]?).elim (.ok value) .error

/-- A call that fails with one failure after the other, and then comes to a value. -/
def flaky (value : α) (input : ι) : StateM (Course ε ι) (Except ε α) := fun course =>
  (outcomeAt value course.failures 0,
    { course with failures := course.failures.tail, given := course.given ++ [input] })

/-- Whether a run ends with a call: it comes to a value, its failure is not worth another attempt, or the
attempts are used up. -/
def Ends (failures : List ε) (k : Nat) : Prop :=
  k = failures.length ∨ (∃ failure, failures[k]? = some failure ∧ policy.retries failure = false) ∨
    policy.maxAttempts ≤ k + 1

/-- What is promised of a run that ends with a call: what the calls are given, what is waited, which failures
are left, and what comes of it. -/
structure AsPromised (value : α) (input : ι) (before : Course ε ι) (k : Nat) (ran : Except ε α × Course ε ι) :
    Prop where
  /-- The call is made up to then, each time with the same input. -/
  given : ran.2.given = before.given ++ List.replicate (k + 1) input
  /-- The waits are the delay and what it grows to. -/
  waits : ran.2.waits.map some = before.waits.map some ++ (List.range k).map policy.waitAt
  /-- The failures of further calls are left. -/
  failures : ran.2.failures = before.failures.drop (k + 1)
  /-- The run comes to the value, or it fails as its last call. -/
  outcome : ran.1 = outcomeAt value before.failures k

theorem foretold_flaky (value : α) (input : ι) (before : Course ε ι) :
    Foretold (flaky value input) (outcomeAt value before.failures) fun i waits course =>
      course.failures = before.failures.drop i ∧ course.given = before.given ++ List.replicate i input ∧
        course.waits = before.waits ++ waits where
  call := by
    rintro i waits course ⟨left, given, waited⟩
    have same : outcomeAt value course.failures 0 = outcomeAt value before.failures i := by
      rw [outcomeAt, outcomeAt, left, List.getElem?_drop, Nat.add_zero]
    refine ⟨(flaky value input course).2, Prod.ext same rfl, ?_, ?_, waited⟩
    · change course.failures.tail = _
      rw [left, List.tail_drop]
    · change course.given ++ [input] = _
      rw [given, List.replicate_succ', List.append_assoc]
  report := by
    rintro i waits course level message here
    exact here
  wait := by
    rintro i waits course seconds ⟨left, given, waited⟩
    refine ⟨left, given, ?_⟩
    change course.waits ++ [seconds] = _
    rw [waited, List.append_assoc]

/-- The first call that ends a run is the first of those that end it by their outcomes. -/
theorem isLeast_ends {value : α} {failures : List ε} {k : Nat}
    (least : IsLeast {k | policy.EndsAt (outcomeAt value failures) k} k) :
    IsLeast {k | policy.Ends failures k} k := by
  have all : k ≤ failures.length := by
    apply least.2
    refine .inl fun failure failed => ?_
    simp [outcomeAt] at failed
  refine ⟨?_, fun j ends => least.2 ?_⟩
  · rcases least.1 with rejected | last
    · cases failed : failures[k]? with
      | none =>
          have none := List.getElem?_eq_none_iff.mp failed
          exact .inl (by omega)
      | some failure =>
          refine .inr (.inl ⟨failure, failed, rejected failure ?_⟩)
          rw [outcomeAt, failed, Option.elim_some]
    · exact .inr (.inr last)
  · rcases ends with rfl | ⟨failure, failed, rejected⟩ | last
    · refine .inl fun failure failed => ?_
      simp [outcomeAt] at failed
    · refine .inl fun other failed' => ?_
      rw [outcomeAt, failed, Option.elim_some] at failed'
      rwa [← Except.error.inj failed']
    · exact .inr last

/-- A run is as promised exactly if all its waits are measured; otherwise it fails for this reason.  It may follow
any other runs. -/
theorem run_flaky (name : String) (value : α) (input : ι) (before : Course ε ι) :
    ∃ k, IsLeast {k | policy.Ends before.failures k} k ∧
      (policy.AsPromised value input before k (policy.run name (flaky value input) before) ↔
        ∀ i < k, policy.Measured i) ∧
      ((∀ i < k, policy.Measured i) ∨
        (policy.run name (flaky value input) before).1 = .error policy.immeasurable) := by
  have start : before.failures = before.failures.drop 0 ∧
      before.given = before.given ++ List.replicate 0 input ∧ before.waits = before.waits ++ [] := by simp
  obtain ⟨k, least, promised | broken⟩ := (foretold_flaky value input before).run_eq policy name start
  · obtain ⟨measured, t, waits, ran, passed, left, given, waited⟩ := promised
    refine ⟨k, policy.isLeast_ends least, iff_of_true ?_ measured, .inl measured⟩
    rw [ran]
    exact ⟨given, by rw [waited, List.map_append, passed], left, rfl⟩
  · obtain ⟨i, early, unmeasured, t, waits, ran, left, given, waited⟩ := broken
    refine ⟨k, policy.isLeast_ends least, iff_of_false (fun promised => ?_) ?_, .inr (by rw [ran])⟩
    · have made := promised.given
      rw [ran, given, List.append_cancel_left_eq, List.replicate_inj] at made
      omega
    · exact fun measured => unmeasured (measured i early)

end RetryPolicy

end Stencil
