import Mathlib
import Stencil.Gitlab.Calls
import Stencil.Proofs.Work

/-!
# Single requests

What a request comes to is told by what comes back from the network, and the session remembers the request.
-/

namespace Stencil.Gitlab

open Data (Value)
open Http (Breakdown Method Request Response)

variable {σ α : Type}

/-- A session once some requests were sent, with the state of the network afterwards. -/
def Session.sent (session : Session σ) (requests : List Request) (network : σ) : Session σ :=
  { session with network, requests := session.requests ++ requests }

@[simp] theorem Session.sent_network (session : Session σ) (requests : List Request) (network : σ) :
    (session.sent requests network).network = network := rfl

theorem Session.sent_sent (session : Session σ) (requests requests' : List Request) (network network' : σ) :
    (session.sent requests network).sent requests' network' = session.sent (requests ++ requests') network' := by
  simp [sent]

namespace Client

/-- What a request comes to, by what comes back from the network. -/
def settle (method : Method) (path : String) : Except (Breakdown Fault) Response → Except Fault Response
  | .error (.unreachable message) => .error (.refused (failed method path message) none)
  | .error (.failure fault) => .error fault
  | .ok response =>
    if response.isFailure then
      .error (.refused (failed method path (failureText response)) (some response.status))
    else .ok response

theorem settle_eq_ok_iff {method : Method} {path : String} {outcome : Except (Breakdown Fault) Response}
    {response : Response} :
    settle method path outcome = .ok response ↔ outcome = .ok response ∧ response.isFailure = false := by
  rcases outcome with (_ | _) | response'
  · simp [settle]
  · simp [settle]
  · cases failing : response'.isFailure with
    | true =>
        suffices response' = response → response.isFailure = true by simpa [settle, failing]
        rintro rfl
        exact failing
    | false =>
        suffices response' = response → response.isFailure = false by simpa [settle, failing]
        rintro rfl
        exact failing

theorem isRefusal_of_settle {method : Method} {path : String} {outcome : Except (Breakdown Fault) Response}
    (plain : ∀ failure, outcome ≠ .error (.failure failure)) {fault : Fault}
    (failed : settle method path outcome = .error fault) : fault.isRefusal = true := by
  rcases outcome with (message | failure) | response
  · cases failed
    rfl
  · exact absurd rfl (plain failure)
  · rw [settle] at failed
    split at failed
    · cases failed
      rfl
    · cases failed

/-- A request as a client sends it. -/
def request (client : Client σ) (method : Method) (path : String) (parameters : Option (List (String × Value)))
    (body : Option Value) : Request :=
  ⟨method, client.address ++ path, client.timeout, parameters, body⟩

theorem run_send (client : Client σ) (method : Method) (path : String)
    (parameters : Option (List (String × Value))) (body : Option Value) (session : Session σ) :
    (client.send method path parameters body).run session =
      (settle method path (client.transport (client.request method path parameters body) session.network).1,
        session.sent [client.request method path parameters body]
          (client.transport (client.request method path parameters body) session.network).2) := by
  refine Ensures.run_eq (.bind (.get (.bind (.set ?_))))
  change Ensures (match (client.transport (client.request method path parameters body) session.network).1 with
    | .error (.unreachable message) => _
    | .error (.failure fault) => _
    | .ok response => _) _ _ _
  cases (client.transport (client.request method path parameters body) session.network).1 with
  | error breakdown =>
      cases breakdown with
      | unreachable message => exact .throw rfl
      | failure fault => exact .throw rfl
  | ok response =>
      simp only [settle]
      split
      · exact .throw rfl
      · exact .pure rfl

end Client

end Stencil.Gitlab
