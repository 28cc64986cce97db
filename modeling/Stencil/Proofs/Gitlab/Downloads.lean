import Mathlib
import Stencil.Proofs.Gitlab.Requests
import Stencil.Proofs.Retry

/-!
# Downloads

The request for an archive is sent again only where the host was not reached or failed itself, as often as the
policy of the client allows.
-/

namespace Stencil.Gitlab.Client

open Data (Number)
open Http (Request)

variable {σ : Type}

/-- The request for the archive of a project. -/
def archiveRequest (client : Client σ) (project : String) : Request :=
  client.request .get (projectPath project ++ "/repository/archive.tar.gz") none none

/-- The state of the network once a request was sent some times. -/
def networkAfter (client : Client σ) (request : Request) (network : σ) (count : Nat) : σ :=
  (fun network => (client.transport request network).2)^[count] network

/-- What the request for an archive comes to after some times. -/
def received (client : Client σ) (project : String) (network : σ) (i : Nat) : Except Fault Http.Response :=
  settle .get (projectPath project ++ "/repository/archive.tar.gz")
    (client.transport (client.archiveRequest project)
      (client.networkAfter (client.archiveRequest project) network i)).1

theorem foretold_download (client : Client σ) (project : String) (session : Session σ) :
    RetryPolicy.Foretold
      (client.call .get (projectPath project ++ "/repository/archive.tar.gz")).run
      (client.received project session.network) fun i _ s =>
        s.network = client.networkAfter (client.archiveRequest project) session.network i ∧
          s.requests = session.requests ++ List.replicate i (client.archiveRequest project) where
  call := by
    rintro i waits s ⟨network, sent⟩
    refine ⟨_, (client.run_send _ _ none none s).trans (Prod.ext (by rw [network]; rfl) rfl), ?_, ?_⟩
    · change (client.transport (client.archiveRequest project) s.network).2 = _
      rw [network, networkAfter, networkAfter, Function.iterate_succ_apply']
    · change s.requests ++ [client.archiveRequest project] = _
      rw [sent, List.replicate_succ', List.append_assoc]
  report := by
    rintro i waits s level message here
    exact here
  wait := by
    rintro i waits s seconds here
    exact here

/-- A failure that is tried again is a broken connection or one of the host itself. -/
theorem passes_of_retries {fault : Fault} (retried : downloadPolicy.retries fault = true) :
    ∃ message status, fault = .refused message status ∧ ∀ code ∈ status, 500 ≤ code := by
  cases fault with
  | refused message status =>
      refine ⟨message, status, rfl, ?_⟩
      rintro code rfl
      have passes : Fault.mayPass (.refused message (some code)) = true := retried
      exact of_decide_eq_true passes
  | _ => simp [RetryPolicy.retries, downloadPolicy, Fault.isRefusal] at retried

/-- What a download comes to is told by the last of its requests. -/
theorem run_downloadArchive {client : Client σ} {project : String} {session t : Session σ}
    {outcome : Except Fault Http.Response}
    (ran : client.download.run "download"
      (client.call .get (projectPath project ++ "/repository/archive.tar.gz")).run session = (outcome, t)) :
    ((client.downloadArchive project).run session).1 = outcome.map (·.body) ∧
      ((client.downloadArchive project).run session).2.requests = t.requests := by
  have made : (ExceptT.mk (client.download.run "download"
      (client.call .get (projectPath project ++ "/repository/archive.tar.gz")).run)).run session =
        (outcome, t) := ran
  rw [downloadArchive, run_bind, made]
  cases outcome with
  | ok response => exact ⟨rfl, rfl⟩
  | error fault => exact ⟨rfl, rfl⟩

/-- How downloads are tried again, but for their number and the waits in between. -/
def downloadPolicyWith (attempts : Int) (delay factor : Decimal.Binary64) : RetryPolicy Fault :=
  { downloadPolicy with maxAttempts := attempts, delay := .binary delay, backoff := .binary factor }

/-- A download is decided by the first of its requests that ends it; those before that failed for a reason that
may pass. -/
theorem run_download (client : Client σ) (attempts : Int) (delay factor : Decimal.Binary64) (project : String)
    (session : Session σ) (policed : client.download = downloadPolicyWith attempts delay factor) :
    ∃ k, IsLeast {k | client.download.EndsAt (client.received project session.network) k} k ∧
      ((client.downloadArchive project).run session).1 =
        (client.received project session.network k).map (·.body) ∧
      ((client.downloadArchive project).run session).2.requests =
        session.requests ++ List.replicate (k + 1) (client.archiveRequest project) ∧
      ∀ i < k, ∃ message status, client.received project session.network i = .error (.refused message status) ∧
        ∀ code ∈ status, 500 ≤ code := by
  have start : session.network = client.networkAfter (client.archiveRequest project) session.network 0 ∧
      session.requests = session.requests ++ List.replicate 0 (client.archiveRequest project) :=
    ⟨rfl, by simp⟩
  obtain ⟨k, least, ⟨-, t, waits, ran, -, -, sent⟩ | ⟨i, -, unmeasured, -⟩⟩ :=
    (client.foretold_download project session).run_eq client.download "download" start
  · obtain ⟨outcome, requests⟩ := run_downloadArchive ran
    refine ⟨k, least, outcome, requests.trans sent, fun i early => ?_⟩
    have goesOn : ¬client.download.EndsAt (client.received project session.network) i := fun ends =>
      Nat.not_le.mpr early (least.2 ends)
    obtain ⟨⟨fault, failed, retried⟩, -⟩ := (RetryPolicy.not_endsAt_iff _).mp goesOn
    rw [policed] at retried
    obtain ⟨message, status, rfl, passes⟩ := passes_of_retries retried
    exact ⟨message, status, failed, passes⟩
  · rw [policed] at unmeasured
    exact absurd (RetryPolicy.measured_of_binary _ rfl rfl i) unmeasured

end Stencil.Gitlab.Client

/-! ## Promises -/

namespace Stencil.RetryPolicy

open Data (Number)
open Gitlab (Client Session)

variable {ε α ι σ : Type}

/-- A policy of two attempts with a whole factor. -/
def growing (factor : Int) : RetryPolicy String where
  maxAttempts := 2
  backoff := .whole factor
  describe := id
  immeasurable := "too large"

theorem not_measured_growing {factor : Int} (large : Decimal.Binary64.Exceeds factor) :
    ¬(growing factor).Measured 0 := by
  rintro ⟨wait, next, first, -, grown⟩
  have beyond : Number.toBinary? (.whole factor) = none := Number.toBinary?_eq_none_iff.mpr large
  have unmultiplied : Number.mul? (.binary (.ofInt 1)) (.whole factor) = none := by
    rw [Number.mul?, beyond]
    · rfl
    · rintro n m ⟨⟩
  rw [waitAt, first] at grown
  obtain rfl := Option.some.inj first
  rw [Option.bind_some] at grown
  exact Option.some_ne_none next (grown.symm.trans unmultiplied)

theorem isLeast_ends_growing (factor : Int) : IsLeast {k | (growing factor).Ends ["reset"] k} 1 := by
  refine ⟨.inl rfl, fun k ends => ?_⟩
  by_contra early
  obtain rfl : k = 0 := by omega
  rcases ends with same | ⟨failure, same, rejected⟩ | last
  · cases same
  · cases rejected
  · cases last

theorem exceeds_two_pow : Decimal.Binary64.Exceeds (2 ^ 1024) := by
  -- The exponents are kept from being computed with.
  have size : ∀ k more : Nat, 2 ^ k ≤ ((2 : Int) ^ k).natAbs + more := by
    intro k more
    rw [Int.natAbs_pow]
    exact Nat.le_add_right _ more
  exact size 1024 _

end Stencil.RetryPolicy
