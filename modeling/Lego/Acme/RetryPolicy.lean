import Lego.Acme.Core

/-!
# Only nonce errors are retried

The retry law of `retrievablePost`, for every CA, every transport and signer
failure and every backoff schedule (the clock and the draws are the world's, so
any pattern of waits and `Stop` answers arises): every attempt but the last
failed with an `*acme.NonceError`; the call returns the last attempt's response
when it succeeded, and `nil` with its error otherwise; and a call that returns a
nonce error does so because every attempt was rejected for its nonce and the
backoff answered `Stop`.

The law rests on two facts of the loop: `operation` cancels the context on any
other error, and a cancelled context makes `NextBackOff` answer `Stop` at once.
So an attempt that does not fail on its nonce ends the call whatever fuel is
left: the call does return it, and not only obeys the law if it returns.

The `Stop` that ends a run of nonce errors is the backoff's own: such a call
returns only once more than its 20 s budget has passed on the clock since it
started, and what it returns is the CA's last nonce error, not a separate timeout.
-/

namespace Lego.Acme.Core

open Lego.Backoff

variable {a : Core}

/-- The retry law over the attempts one run of the loop adds to the record, from
a state whose context is live. -/
theorem retryLoop_retries_only_nonce_errors {uri : String} {content : List UInt8} :
    ∀ {fuel : Nat} {g : a.RunState} {r : Retried Error a.RunState}, g.cancelled = false →
      retryLoop (a.operation uri content) (withContext a.backOff (·.cancelled)) a.sleep fuel g =
        some r →
      ∃ retried last, r.state.attempts = g.attempts ++ retried ++ [last] ∧
        (∀ o ∈ retried, o.isNonceError) ∧ r.err = last.error ∧
        (last.error = none → r.state.resp = last.response) ∧
        (last.isNonceError → r.schedule.getLast? = some none)
  | 0, _, _, _, h => by cases h
  | fuel + 1, g, r, hg, h => by
    obtain ⟨attempt, world, calls, -, hoperation⟩ := a.operation_spec uri content g
    rcases retryLoop_eq_some h with
      ⟨g₁, hop, rfl⟩ | ⟨err, g₁, g₂, hop, hb, rfl⟩ |
      ⟨err, g₁, next, g₂, hop, hb, hdone, rfl⟩ |
      ⟨err, g₁, next, g₂, rest, hop, hb, hdone, hrest, rfl⟩
    all_goals
      rw [hoperation, Prod.mk.injEq] at hop
      obtain ⟨herr, rfl⟩ := hop
    · -- the first attempt succeeded
      exact ⟨[], attempt, by simp, by simp, herr.symm, fun _ => rfl,
        by simp [Outcome.isNonceError, herr]⟩
    · -- it failed and the backoff answered `Stop`
      obtain ⟨-, -, -, hattempts⟩ := hb ▸ nextBackOff_keeps _
      dsimp only at hattempts
      exact ⟨[], attempt, by simp [hattempts], by simp, herr.symm, by simp [herr],
        fun _ => rfl⟩
    · -- a granted wait means a live context, which the backoff does not cancel
      have hkept := (hb ▸ nextBackOff_keeps _).1
      exact (Bool.false_ne_true
        (((nextBackOff_eq_some hb).1.symm.trans hkept.symm).trans hdone)).elim
    · -- a nonce error, a wait, and the rest of the run
      obtain ⟨-, -, -, hattempts⟩ := hb ▸ nextBackOff_keeps _
      dsimp only at hattempts
      have hnonce : attempt.isNonceError := by
        simpa [Outcome.isNonceError, herr, hg] using (nextBackOff_eq_some hb).1
      obtain ⟨retried, last, hrest_attempts, hretried, hrest_err, hresp, hstop⟩ :=
        retryLoop_retries_only_nonce_errors (by simpa using hdone) hrest
      exact ⟨attempt :: retried, last, by simp [sleep, hrest_attempts, hattempts],
        List.forall_mem_cons.2 ⟨hnonce, hretried⟩, hrest_err, hresp,
        fun hlast => by simp [List.getLast?_cons, hstop hlast]⟩

/-- The retry law of a finished call: the attempts are retried nonce errors
followed by one last attempt; a success returns its response with `nil`; a
failure returns `nil` with its error and is not retried; and a nonce error is
returned only when every attempt failed with one and the backoff answered
`Stop`. -/
def RetriesOnlyNonceErrors (run : a.PostRun) : Prop :=
  ∃ retried last, run.attempts = retried ++ [last] ∧
    (∀ o ∈ retried, o.isNonceError) ∧
    (last.error = none → run.outcome = ⟨last.response, none⟩) ∧
    (∀ err, last.error = some err → err.isNonceError = false →
      run.outcome = ⟨none, some err⟩) ∧
    (∀ err, run.outcome = ⟨none, some err⟩ → err.isNonceError →
      (∀ o ∈ run.attempts, o.isNonceError) ∧ run.schedule.getLast? = some none)

/-- A round whose attempt does not fail on its nonce ends the loop there, with
any fuel: a success returns at once, and any other error cancels the context,
so that the backoff answers `Stop` and leaves the state as the attempt left it. -/
theorem retryLoop_of_not_nonce_error {uri : String} {content : List UInt8} (fuel : Nat)
    (g : a.RunState) (err : Option Error) (g' : a.RunState)
    (hoperation : a.operation uri content g = (err, g'))
    (hnonce : err.all (!·.isNonceError)) :
    retryLoop (a.operation uri content) (withContext a.backOff (·.cancelled)) a.sleep
        (fuel + 1) g =
      some ⟨err, g', (err.map fun _ => (none : Option Nat)).toList⟩ := by
  obtain ⟨attempt, world, calls, -, hspec⟩ := a.operation_spec uri content g
  rw [hspec, Prod.mk.injEq] at hoperation
  obtain ⟨rfl, rfl⟩ := hoperation
  rcases herr : attempt.error with _ | err
  · simp [retryLoop, hspec, herr]
  · have hother : err.isNonceError = false := by simpa [herr] using hnonce
    simp [retryLoop, hspec, herr, hother]

/-- The retry law of `retrievablePost`: every call that returns obeys
`RetriesOnlyNonceErrors`, and an attempt that does not fail on its nonce ends
the call's loop at once, whatever fuel is left: the loop returns that attempt's
error with the state it left, and makes no further attempt. -/
theorem retrievablePost_retries_only_nonce_errors (a : Core) (uri : String)
    (content : List UInt8) :
    (∀ fuel w run, a.retrievablePost uri content fuel w = some run →
      RetriesOnlyNonceErrors run) ∧
    ∀ fuel g err g', a.operation uri content g = (err, g') → err.all (!·.isNonceError) →
      retryLoop (a.operation uri content) (withContext a.backOff (·.cancelled)) a.sleep
          (fuel + 1) g =
        some ⟨err, g', (err.map fun _ => (none : Option Nat)).toList⟩ := by
  refine ⟨fun fuel w run hrun => ?_, retryLoop_of_not_nonce_error⟩
  obtain ⟨r, hr, rfl⟩ := retrievablePost_eq_some hrun
  obtain ⟨retried, last, hattempts, hretried, herr, hresp, hstop⟩ :=
    retryLoop_retries_only_nonce_errors rfl hr
  have hrecord : (a.postResult r).attempts = retried ++ [last] := by
    simpa [postResult, startState] using hattempts
  refine ⟨retried, last, hrecord, hretried, fun hsuccess => ?_, fun err hfailed _ => ?_,
    fun err hreturned hnonce => ?_⟩
  · simp [postResult, herr, hsuccess, hresp hsuccess]
  · simp [postResult, herr, hfailed]
  · -- the error returned is the last attempt's, so that one failed on its nonce too
    have hlast : last.isNonceError := by
      cases hlast : last.error <;> simp_all [postResult, Outcome.isNonceError]
    rw [hrecord]
    exact ⟨List.forall_mem_append.2 ⟨hretried, List.forall_mem_singleton.2 hlast⟩,
      hstop hlast⟩

/-- A CA that rejects the first nonce and refuses the retry: the call retries
the nonce error, and returns the refusal after the second attempt. -/
theorem retrievablePost_retries_only_nonce_errors_refused :
    ∃ run, refusingCore.retrievablePost ("new-order") [] 16 ((0, 0) : Nat × Nat) = some run ∧
      run.attempts.length = 2 ∧ run.outcome = ⟨none, some (.other ("unauthorized"))⟩ ∧
      RetriesOnlyNonceErrors run := by
  refine ⟨_, rfl, rfl, rfl, ?_⟩
  exact (retrievablePost_retries_only_nonce_errors refusingCore ("new-order") []).1 16
    ((0, 0) : Nat × Nat) _ rfl

/-! ## Giving up on nonce errors takes the whole budget -/

/-- What a call keeps true of its state: the backoff's clock started with the
call and its budget is the configured 20 s, and the context is cancelled exactly
when some attempt failed with an error other than a nonce error. -/
structure Budgeted (w : a.World) (g : a.RunState) : Prop where
  startTime : g.bo.startTime = a.runtime.now w
  maxElapsedTime : g.bo.maxElapsedTime = 20 * second
  cancelled : g.cancelled = g.attempts.any fun o => o.error.any (!·.isNonceError)

theorem budgeted_start (w : a.World) :
    Budgeted w ((withContext a.backOff (·.cancelled)).reset (a.startState w)) :=
  ⟨rfl, rfl, rfl⟩

theorem budgeted_operation (uri : String) (content : List UInt8) {w : a.World}
    {g : a.RunState} (hg : Budgeted w g) : Budgeted w (a.operation uri content g).2 := by
  obtain ⟨attempt, world, calls, -, hoperation⟩ := a.operation_spec uri content g
  rw [hoperation]
  exact ⟨hg.startTime, hg.maxElapsedTime, by simp [hg.cancelled]⟩

theorem budgeted_nextBackOff {w : a.World} {g : a.RunState} (hg : Budgeted w g) :
    Budgeted w ((withContext a.backOff (·.cancelled)).nextBackOff g).2 := by
  obtain ⟨hcancelled, -, -, hattempts⟩ := nextBackOff_keeps g
  obtain ⟨hstart, hmax⟩ := nextBackOff_keeps_budget g
  exact ⟨hstart.trans hg.startTime, hmax.trans hg.maxElapsedTime,
    by rw [hcancelled, hattempts, hg.cancelled]⟩

theorem budgeted_sleep (next : Nat) {w : a.World} {g : a.RunState} (hg : Budgeted w g) :
    Budgeted w (a.sleep next g) :=
  ⟨hg.startTime, hg.maxElapsedTime, hg.cancelled⟩

/-- Attempts that all failed on their nonce never cancel the context. -/
theorem any_cancelling_eq_false {l : List (Outcome a.Response)}
    (h : ∀ o ∈ l, o.isNonceError) : (l.any fun o => o.error.any (!·.isNonceError)) = false :=
  List.any_eq_false.2 fun o ho => by
    have hnonce := h o ho
    cases herr : o.error <;> simp_all [Outcome.isNonceError]

/-- A run of a call's loop that ends on a nonce error ended on a `Stop` answer
given more than 20 s after the call started. -/
theorem retry_budget_spent_of_nonce_error {uri : String} {content : List UInt8}
    {fuel : Nat} {w : a.World} {r : Retried Error a.RunState}
    (hr : retry (a.operation uri content) (withContext a.backOff (·.cancelled)) a.sleep fuel
      (a.startState w) = some r)
    (hnonce : r.err.any Error.isNonceError) :
    a.runtime.now w + 20 * second < a.runtime.now r.state.world := by
  obtain ⟨retried, last, hattempts, hretried, herr, -, hstop⟩ :=
    retryLoop_retries_only_nonce_errors rfl hr
  have hlast : last.isNonceError := by rwa [Outcome.isNonceError, ← herr]
  obtain ⟨g₁, hg₁, hb⟩ := retryLoop_stopped (Budgeted w)
    (fun _ => budgeted_operation uri content) (fun _ => budgeted_nextBackOff)
    (fun next _ => budgeted_sleep next) (budgeted_start w) hr (hstop hlast)
  -- every attempt failed on its nonce, so the context was live when the backoff stopped
  have hlive : g₁.cancelled = false := by
    obtain ⟨-, -, -, hkept⟩ := hb ▸ nextBackOff_keeps g₁
    dsimp only at hkept
    rw [hg₁.cancelled, ← hkept, hattempts]
    exact any_cancelling_eq_false (List.forall_mem_append.2
      ⟨List.forall_mem_append.2 ⟨nofun, hretried⟩, List.forall_mem_singleton.2 hlast⟩)
  obtain ⟨-, hspent, hworld⟩ := nextBackOff_eq_none hb hlive
  rw [ExponentialBackOff.getElapsedTime, hg₁.startTime, hg₁.maxElapsedTime] at hspent
  rw [hworld]
  omega

end Lego.Acme.Core
