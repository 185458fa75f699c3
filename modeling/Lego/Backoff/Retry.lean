import Lego.Backoff.Exponential

/-!
# The retry loop

`backoff.Retry(operation, b)` runs `RetryNotify` with no notifier: reset the
backoff, run the operation, and after each failure ask the backoff for a wait,
until the operation succeeds, the backoff answers `Stop`, or the context is done
while waiting. Everything the loop touches lives in one state `γ` (the world with
its clock, the backoff's fields, the caller's captured variables), and each
collaborator is a function on it.

The run records the answers `NextBackOff` gave, in order: the schedule the run
consumed. A run is bounded by a fuel count of attempts, so that a backoff that
never stops yields `none` rather than a definition Lean cannot accept.

Three facts are proved once here and used by every property of the callers: what
one round of the loop can do (`retryLoop_eq_some`), that a predicate kept by each
step holds at the end of every run (`retry_invariant`), and that a run whose last
answer was `Stop` ended in the state that answer left (`retryLoop_stopped`).
-/

namespace Lego.Backoff

variable {γ ε : Type}

/-- The `BackOff` interface over the state `γ` it reads and updates.
`nextBackOff` answers a wait, or `none` for `Stop`. -/
structure BackOff (γ : Type) where
  nextBackOff : γ → Option Nat × γ
  reset : γ → γ

/-- `BackOffContext`: a backoff together with the context it observes. -/
structure BackOffContext (γ : Type) extends BackOff γ where
  /-- Whether `Context().Done()` is closed. -/
  done : γ → Bool

/-- `WithContext`: answer `Stop` once the context is done, and otherwise ask the
wrapped backoff. The one context of this program,
`context.WithCancel(context.Background())`, has no deadline, so the deadline test
of `backOffContext.NextBackOff` never fires and is left out. -/
def withContext (b : BackOff γ) (done : γ → Bool) : BackOffContext γ where
  nextBackOff g := if done g then (none, g) else b.nextBackOff g
  reset := b.reset
  done := done

@[simp]
theorem withContext_nextBackOff (b : BackOff γ) (done : γ → Bool) (g : γ) :
    (withContext b done).nextBackOff g = if done g then (none, g) else b.nextBackOff g := rfl

@[simp]
theorem withContext_reset (b : BackOff γ) (done : γ → Bool) :
    (withContext b done).reset = b.reset := rfl

@[simp]
theorem withContext_done (b : BackOff γ) (done : γ → Bool) :
    (withContext b done).done = done := rfl

/-- How a run of `Retry` ended: the operation's last error (`none` when it
succeeded), the final state, and the schedule, the answers of `NextBackOff`
after each failed attempt. -/
structure Retried (ε γ : Type) where
  err : Option ε
  state : γ
  schedule : List (Option Nat)

/-- The loop of `RetryNotify`, with at most `fuel` attempts. The operation of
this program never returns a `*PermanentError`, so that exit is left out; the
timer's `select` is taken as: a context already done ends the run, otherwise
the timer fires after `next`. -/
def retryLoop (operation : γ → Option ε × γ) (b : BackOffContext γ)
    (sleep : Nat → γ → γ) : Nat → γ → Option (Retried ε γ)
  | 0, _ => none
  | fuel + 1, g =>
    match operation g with
    | (none, g) => some ⟨none, g, []⟩
    | (some err, g) =>
      match b.nextBackOff g with
      | (none, g) => some ⟨some err, g, [none]⟩
      | (some next, g) =>
        if b.done g then some ⟨some err, g, [some next]⟩
        else (retryLoop operation b sleep fuel (sleep next g)).map fun r =>
          { r with schedule := some next :: r.schedule }

/-- `Retry`: `Reset` the backoff, then loop. -/
def retry (operation : γ → Option ε × γ) (b : BackOffContext γ) (sleep : Nat → γ → γ)
    (fuel : Nat) (g : γ) : Option (Retried ε γ) :=
  retryLoop operation b sleep fuel (b.reset g)

section Loop

variable {operation : γ → Option ε × γ} {b : BackOffContext γ} {sleep : Nat → γ → γ}

/-- One round of the loop ends in one of four ways: the attempt succeeded; it
failed and the backoff answered `Stop`; it failed, a wait was granted, and the
context was already done; or it failed, the wait passed, and the rest of the
run is a run of the loop. -/
theorem retryLoop_eq_some {fuel : Nat} {g : γ} {r : Retried ε γ}
    (h : retryLoop operation b sleep (fuel + 1) g = some r) :
    (∃ g₁, operation g = (none, g₁) ∧ r = ⟨none, g₁, []⟩) ∨
    (∃ err g₁ g₂, operation g = (some err, g₁) ∧ b.nextBackOff g₁ = (none, g₂) ∧
      r = ⟨some err, g₂, [none]⟩) ∨
    (∃ err g₁ next g₂, operation g = (some err, g₁) ∧
      b.nextBackOff g₁ = (some next, g₂) ∧ b.done g₂ = true ∧
      r = ⟨some err, g₂, [some next]⟩) ∨
    (∃ err g₁ next g₂ rest, operation g = (some err, g₁) ∧
      b.nextBackOff g₁ = (some next, g₂) ∧ b.done g₂ = false ∧
      retryLoop operation b sleep fuel (sleep next g₂) = some rest ∧
      r = { rest with schedule := some next :: rest.schedule }) := by
  simp only [retryLoop] at h
  rcases hop : operation g with ⟨_ | err, g₁⟩
  · simp only [hop, Option.some.injEq] at h
    exact .inl ⟨g₁, rfl, h.symm⟩
  rcases hnext : b.nextBackOff g₁ with ⟨_ | next, g₂⟩
  · simp only [hop, hnext, Option.some.injEq] at h
    exact .inr (.inl ⟨err, g₁, g₂, rfl, hnext, h.symm⟩)
  cases hdone : b.done g₂
  · simp only [hop, hnext, hdone, Bool.false_eq_true, ↓reduceIte, Option.map_eq_some'] at h
    obtain ⟨rest, hrest, rfl⟩ := h
    exact .inr (.inr (.inr ⟨err, g₁, next, g₂, rest, rfl, hnext, hdone, hrest, rfl⟩))
  · simp only [hop, hnext, hdone, ↓reduceIte, Option.some.injEq] at h
    exact .inr (.inr (.inl ⟨err, g₁, next, g₂, rfl, hnext, hdone, h.symm⟩))

/-- A predicate kept by the operation, by `NextBackOff` and by the timer holds in
the final state of every run of the loop. -/
theorem retryLoop_invariant (inv : γ → Prop)
    (hoperation : ∀ g, inv g → inv (operation g).2)
    (hnext : ∀ g, inv g → inv (b.nextBackOff g).2)
    (hsleep : ∀ next g, inv g → inv (sleep next g)) :
    ∀ {fuel g r}, inv g → retryLoop operation b sleep fuel g = some r → inv r.state
  | 0, _, _, _, h => by cases h
  | fuel + 1, g, r, hg, h => by
    have after₁ := hoperation g hg
    rcases retryLoop_eq_some h with
      ⟨g₁, hop, rfl⟩ | ⟨err, g₁, g₂, hop, hb, rfl⟩ |
      ⟨err, g₁, next, g₂, hop, hb, -, rfl⟩ |
      ⟨err, g₁, next, g₂, rest, hop, hb, -, hrest, rfl⟩
    · simpa [hop] using after₁
    all_goals
      have after₂ := hnext g₁ (by simpa [hop] using after₁)
      rw [hb] at after₂
    · exact after₂
    · exact after₂
    · exact (retryLoop_invariant inv hoperation hnext hsleep (hsleep next g₂ after₂) hrest :
        inv rest.state)

/-- A run whose schedule ends in `Stop` ended on that answer: its final state is
what `NextBackOff` left when it answered `Stop`, from a state the invariant holds
in. -/
theorem retryLoop_stopped (inv : γ → Prop)
    (hoperation : ∀ g, inv g → inv (operation g).2)
    (hnext : ∀ g, inv g → inv (b.nextBackOff g).2)
    (hsleep : ∀ next g, inv g → inv (sleep next g)) :
    ∀ {fuel g r}, inv g → retryLoop operation b sleep fuel g = some r →
      r.schedule.getLast? = some none →
      ∃ g₁, inv g₁ ∧ b.nextBackOff g₁ = (none, r.state)
  | 0, _, _, _, h, _ => by cases h
  | fuel + 1, g, r, hg, h, hstop => by
    have after₁ := hoperation g hg
    rcases retryLoop_eq_some h with
      ⟨g₁, hop, rfl⟩ | ⟨err, g₁, g₂, hop, hb, rfl⟩ |
      ⟨err, g₁, next, g₂, hop, hb, -, rfl⟩ |
      ⟨err, g₁, next, g₂, rest, hop, hb, -, hrest, rfl⟩
    · -- a success schedules nothing
      cases hstop
    · -- the `Stop` answer itself
      exact ⟨g₁, by simpa [hop] using after₁, hb⟩
    · -- a granted wait is not `Stop`
      cases hstop
    · -- the `Stop` answer ends the rest of the run
      have after₂ := hnext g₁ (by simpa [hop] using after₁)
      rw [hb] at after₂
      have hrest_stop : rest.schedule.getLast? = some none := by
        cases hlast : rest.schedule.getLast? <;> simp_all [List.getLast?_cons]
      exact (retryLoop_stopped inv hoperation hnext hsleep (hsleep next g₂ after₂) hrest
        hrest_stop : ∃ g₁, inv g₁ ∧ b.nextBackOff g₁ = (none, rest.state))

/-- The invariant principle for `Retry`: the reset must keep it too. -/
theorem retry_invariant (inv : γ → Prop)
    (hoperation : ∀ g, inv g → inv (operation g).2)
    (hnext : ∀ g, inv g → inv (b.nextBackOff g).2)
    (hsleep : ∀ next g, inv g → inv (sleep next g))
    (hreset : ∀ g, inv g → inv (b.reset g)) {fuel : Nat} {g : γ} {r : Retried ε γ}
    (hg : inv g) (h : retry operation b sleep fuel g = some r) : inv r.state :=
  retryLoop_invariant inv hoperation hnext hsleep (hreset g hg) h

end Loop

end Lego.Backoff
