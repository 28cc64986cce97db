import Stencil.Data.Number
import Stencil.Log

/-!
# Trying again

A call that fails for a passing reason is made again after a wait.  The waits grow by a factor from one
failure to the next, and a policy says how often a call is made and which failures are worth another try.
The last failure is the failure of the whole.
-/

namespace Stencil

open Data (Number)

/-- How often and how patiently a call is made. -/
structure RetryPolicy (ε : Type) where
  /-- How often a call is made at most; it is always made once. -/
  maxAttempts : Int := 3
  /-- The seconds before the second attempt. -/
  delay : Number := .binary (.ofInt 1)
  /-- The factor between a wait and the next one. -/
  backoff : Number := .binary (.ofInt 2)
  /-- Whether a failure is of a kind that is tried again. -/
  isCandidate : ε → Bool := fun _ => true
  /-- Whether a failure of such a kind may pass. -/
  mayPass : ε → Bool := fun _ => true
  /-- The wording of a failure. -/
  describe : ε → String
  /-- The failure of a wait that is too long to be measured. -/
  immeasurable : ε

/-- What a call needs around it to be made again. -/
class Patient (m : Type → Type) where
  /-- Makes a record. -/
  report : Log.Level → String → m Unit
  /-- Lets a number of seconds pass. -/
  wait : Number → m Unit

namespace RetryPolicy

variable {ε α : Type} {m : Type → Type} [Monad m] [Patient m]

/-- Whether a failure is worth another attempt. -/
def retries (policy : RetryPolicy ε) (failure : ε) : Bool :=
  policy.isCandidate failure && policy.mayPass failure

/-- The record of a failure that is not the last. -/
def failureLine (policy : RetryPolicy ε) (name : String) (attempt : Nat) (failure : ε) : String :=
  name ++ " failed (attempt " ++ Data.decimal attempt ++ "/" ++ Data.intText policy.maxAttempts ++ "): " ++
    policy.describe failure

/-- The record of a wait. -/
def waitLine (seconds : String) : String :=
  "Retrying in " ++ seconds ++ "s..."

/-- Makes a call, and after failures worth it up to `further` times more; `attempt` numbers the first of
these calls, and `wait` is the time before the second. -/
def runFrom (policy : RetryPolicy ε) (name : String) (call : m (Except ε α)) :
    (further attempt : Nat) → (wait : Number) → m (Except ε α)
  | 0, _, _ => call
  | further + 1, attempt, wait => do
    match ← call with
    | .ok a => pure (.ok a)
    | .error failure =>
      if policy.retries failure then do
        Patient.report .warning (policy.failureLine name attempt failure)
        match wait.fixedText? 1 with
        | none => pure (.error policy.immeasurable)
        | some seconds => do
          Patient.report .info (waitLine seconds)
          Patient.wait wait
          match wait.mul? policy.backoff with
          | none => pure (.error policy.immeasurable)
          | some next => runFrom policy name call further (attempt + 1) next
      else pure (.error failure)

/-- Makes a call as often as the policy asks for; `name` is its name in the records. -/
def run (policy : RetryPolicy ε) (name : String) (call : m (Except ε α)) : m (Except ε α) :=
  runFrom policy name call (policy.maxAttempts - 1).toNat 1 policy.delay

end RetryPolicy

end Stencil
