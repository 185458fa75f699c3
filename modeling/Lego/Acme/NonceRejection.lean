import Lego.Acme.RetryPolicy
import Lego.Acme.AttemptBound

/-!
# A CA that rejects every nonce

The retry law, the attempt bound and the budget law together say what a call does
against a CA that answers every request with its `badNonce` problem, with a
signer that always signs: the call returns within 16 attempts, more than 20 s
after it started, and what it returns is the CA's last nonce error. No separate
timeout error is made: the error a caller sees once the budget has run out is an
`*acme.NonceError`.
-/

namespace Lego.Acme.Core

open Lego.Backoff

variable {a : Core}

/-- Against a CA that rejects every nonce, with a signer that always signs, every
attempt of a call fails with a nonce error. -/
theorem retry_attempts_nonce_errors
    (hsigner : ∀ url content w,
      ∃ signature, (a.jws.signContent url content w).1 = .ok signature)
    (hca : ∀ url body bodyType w, (a.doer.post url body bodyType w).1.isNonceError)
    {uri : String} {content : List UInt8} {fuel : Nat} {w : a.World}
    {r : Retried Error a.RunState}
    (hr : retry (a.operation uri content) (withContext a.backOff (·.cancelled)) a.sleep fuel
      (a.startState w) = some r) :
    ∀ o ∈ r.state.attempts, o.isNonceError := by
  refine retry_invariant (fun g : a.RunState => ∀ o ∈ g.attempts, o.isNonceError)
    ?_ ?_ ?_ ?_ (by simp [startState]) hr
  · -- an attempt adds the transport's answer
    intro g hg
    obtain ⟨attempt, world, calls, hs, hoperation⟩ := a.operation_spec uri content g
    obtain ⟨signature, hsigned⟩ := hsigner uri content g.world
    have hattempt := a.signedPost_outcome_of_signed hsigned
    simp only [hs] at hattempt
    rw [hoperation]
    exact List.forall_mem_append.2 ⟨hg, List.forall_mem_singleton.2 (hattempt ▸ hca _ _ _ _)⟩
  · -- the backoff, the timer and the reset leave the record alone
    intro g hg
    obtain ⟨-, -, -, hattempts⟩ := nextBackOff_keeps g
    rwa [hattempts]
  · exact fun _ _ hg => hg
  · exact fun _ hg => hg

/-- Against a CA that rejects every nonce, a call with fuel for 16 attempts
returns, after more than its 20 s budget, the CA's nonce error. -/
theorem retrievablePost_rejecting_every_nonce (a : Core) (hclock : ClockRespected a)
    (hdraws : ∀ w, 0 ≤ (a.runtime.float64 w).1 ∧ (a.runtime.float64 w).1 < 1)
    (hsigner : ∀ url content w,
      ∃ signature, (a.jws.signContent url content w).1 = .ok signature)
    (hca : ∀ url body bodyType w, (a.doer.post url body bodyType w).1.isNonceError)
    (uri : String) (content : List UInt8) (w : a.World) (fuel : Nat) (hfuel : 16 ≤ fuel) :
    ∃ run, a.retrievablePost uri content fuel w = some run ∧ run.attempts.length ≤ 16 ∧
      (∃ message, run.outcome = ⟨none, some (.nonceError message)⟩) ∧
      a.runtime.now w + 20 * second < a.runtime.now run.world := by
  obtain ⟨r, hr, hlength⟩ := retryLoop_returns_of_paced hclock hdraws uri content fuel 0 _
    (paced_start w) (by omega)
  obtain ⟨retried, last, hattempts, -, herr, -, -⟩ := retryLoop_retries_only_nonce_errors rfl hr
  -- the call's error is its last attempt's, a nonce error as every attempt's is
  have hlast : last.isNonceError :=
    retry_attempts_nonce_errors hsigner hca hr last (by simp [hattempts])
  obtain ⟨message, hmessage⟩ : ∃ message, r.err = some (.nonceError message) := by
    rw [herr]
    rw [Outcome.isNonceError] at hlast
    rcases herror : last.error with _ | (message | _) <;> simp_all [Error.isNonceError]
  exact ⟨a.postResult r, by simp only [retrievablePost, retry, hr, Option.map_some'], hlength,
    ⟨message, by simp [postResult, hmessage]⟩,
    retry_budget_spent_of_nonce_error hr (by simp [hmessage, Error.isNonceError])⟩

/-- The sample CA answering `badNonce` to everything, with draws of `0`. -/
theorem retrievablePost_rejecting_every_nonce_sample :
    ∃ run, (sampleCore ⟨some (), some (.nonceError ("badNonce"))⟩).retrievablePost
        ("new-order") [] 16 (0 : ℕ) = some run ∧ run.attempts.length ≤ 16 ∧
      (∃ message, run.outcome = ⟨none, some (.nonceError message)⟩) ∧
      (sampleCore ⟨some (), some (.nonceError ("badNonce"))⟩).runtime.now (0 : ℕ) +
          20 * second <
        (sampleCore ⟨some (), some (.nonceError ("badNonce"))⟩).runtime.now run.world :=
  retrievablePost_rejecting_every_nonce (sampleCore ⟨some (), some (.nonceError ("badNonce"))⟩)
    ⟨fun _ _ _ => le_rfl, fun _ _ _ _ => le_rfl, fun _ _ => le_rfl, fun _ => le_rfl,
      fun _ _ => le_rfl⟩
    (fun _ => ⟨le_rfl, zero_lt_one⟩) (fun _ _ _ => ⟨(), rfl⟩) (fun _ _ _ _ => rfl)
    ("new-order") [] (0 : ℕ) 16 le_rfl

end Lego.Acme.Core
