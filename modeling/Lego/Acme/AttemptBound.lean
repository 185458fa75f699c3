import Lego.Acme.Core

/-!
# At most sixteen attempts

With a CA that answers `badNonce` forever, `retrievablePost` still returns, and
after at most sixteen attempts, whatever the draws of the backoff and however
long each attempt takes. The only assumptions are that the clock never goes
backwards and that every wait lasts at least the interval the backoff computed.

The bound comes from the configured backoff. Its interval starts at 200 ms and
grows by half up to 5 s (`retryInterval`); every wait is at least half the
current interval, so after `k` waits at least `leastElapsed k` has passed since
the reset. `NextBackOff` answers `Stop` once more than 20 s has passed, and
`leastElapsed 15` is already past 20 s: at most fifteen waits, so sixteen
attempts. It needs the nonzero `MaxElapsedTime`: the library reads `0` as
"never stop".
-/

namespace Lego.Acme.Core

open Lego.Backoff

/-- The interval after `k` waits, as `incrementCurrentInterval` computes it from
200 ms at the default multiplier with a 5 s maximum interval. -/
def retryInterval : Nat → Nat
  | 0 => 200 * millisecond
  | k + 1 =>
    if 2 * (5 * second) ≤ 3 * retryInterval k then 5 * second else retryInterval k * 3 / 2

/-- The least time `k` waits take: each lasts at least half its interval. -/
def leastElapsed : Nat → Nat
  | 0 => 0
  | k + 1 => leastElapsed k + retryInterval k / 2

/-- Fifteen waits already take more than the 20 s budget. -/
theorem maxElapsedTime_lt_leastElapsed_fifteen : 20 * second < leastElapsed 15 := by decide

/-- The assumptions on the runtime: no collaborator moves the clock backwards,
and each wait lasts at least its interval. -/
structure ClockRespected (a : Core) : Prop where
  signContent : ∀ url content w,
    a.runtime.now w ≤ a.runtime.now (a.jws.signContent url content w).2
  post : ∀ url body bodyType w,
    a.runtime.now w ≤ a.runtime.now (a.doer.post url body bodyType w).2
  push : ∀ nonce w, a.runtime.now w ≤ a.runtime.now (a.nonceManager.push nonce w)
  float64 : ∀ w, a.runtime.now w ≤ a.runtime.now (a.runtime.float64 w).2
  sleep : ∀ next w, a.runtime.now w + next ≤ a.runtime.now (a.runtime.sleep next w)

variable {a : Core}

/-- An attempt does not move the clock backwards. -/
theorem now_le_signedPost (hclock : ClockRespected a) (uri : String) (content : List UInt8)
    (w : a.World) : a.runtime.now w ≤ a.runtime.now (a.signedPost uri content w).2.1 := by
  have hsign := hclock.signContent uri content w
  rcases hsigned : a.jws.signContent uri content w with ⟨err | signature, w'⟩
  · simpa [signedPost, hsigned] using hsign
  · simp only [hsigned] at hsign
    have hpost := hclock.post uri (a.fullSerialize signature) joseJSON w'
    rcases hposted : a.doer.post uri (a.fullSerialize signature) joseJSON w' with ⟨answer, w''⟩
    simp only [hposted] at hpost
    cases hnonce : a.getFromResponse answer.response with
    | none =>
      simp only [signedPost, hsigned, hposted, hnonce]
      omega
    | some nonce =>
      simp only [signedPost, hsigned, hposted, hnonce]
      have hpush := hclock.push nonce w''
      omega

/-- The state before attempt `k + 1`, after `k` waits: the backoff keeps the
configuration `retrievablePost` gave it, its interval is the `k`-th, and at
least the least time of `k` waits has passed since its reset. -/
structure Paced (k : Nat) (g : a.RunState) : Prop where
  randomizationFactor : g.bo.randomizationFactor = defaultRandomizationFactor
  multiplier : g.bo.multiplier = defaultMultiplier
  maxInterval : g.bo.maxInterval = 5 * second
  maxElapsedTime : g.bo.maxElapsedTime = 20 * second
  currentInterval : g.bo.currentInterval = retryInterval k
  elapsed : g.bo.startTime + leastElapsed k ≤ a.runtime.now g.world
  attempts : g.attempts.length = k
  bound : k ≤ 15

/-- The reset start state of `retrievablePost` is paced, with no wait yet. -/
theorem paced_start (w : a.World) :
    Paced 0 ((withContext a.backOff (·.cancelled)).reset (a.startState w)) :=
  ⟨rfl, rfl, rfl, rfl, rfl, by simp [startState, leastElapsed], rfl, by omega⟩

section Paced

variable (hclock : ClockRespected a)
  (hdraws : ∀ w, 0 ≤ (a.runtime.float64 w).1 ∧ (a.runtime.float64 w).1 < 1)
include hclock hdraws

/-- What a wait granted after an attempt from a paced state tells: it was
granted at a clock reading `t`, after the attempt began and within the 20 s
budget; it is the randomized value of the `k`-th interval for a draw in
`[0, 1)`; the backoff moved one interval on from the same start; and the
attempt was recorded. -/
theorem wait_granted {uri : String} {content : List UInt8} {k next : Nat}
    {g g₂ : a.RunState} (hpaced : Paced k g)
    (hnext : (withContext a.backOff (·.cancelled)).nextBackOff (a.operation uri content g).2 =
      (some next, g₂)) :
    ∃ t random, a.runtime.now g.world ≤ t ∧ t ≤ g.bo.startTime + 20 * second ∧
      t ≤ a.runtime.now g₂.world ∧ 0 ≤ random ∧ random < 1 ∧
      next = getRandomValueFromInterval defaultRandomizationFactor random (retryInterval k) ∧
      g₂.bo = g.bo.incrementCurrentInterval ∧ g₂.attempts.length = k + 1 := by
  obtain ⟨attempt, world, calls, hsigned, hoperation⟩ := a.operation_spec uri content g
  rw [hoperation] at hnext
  obtain ⟨-, hexponential⟩ := nextBackOff_eq_some hnext
  obtain ⟨-, -, -, hattempts⟩ := hnext ▸ nextBackOff_keeps _
  dsimp only at hattempts hexponential
  obtain ⟨hbudget, hwait, hbo, hworld⟩ := ExponentialBackOff.nextBackOff_eq_some hexponential
  simp only [ExponentialBackOff.getElapsedTime, hpaced.maxElapsedTime, ne_eq, not_and,
    not_lt] at hbudget
  have hwithin := hbudget (by decide)
  refine ⟨a.runtime.now world, (a.runtime.float64 world).1, ?_, by omega, ?_, hdraws world |>.1,
    hdraws world |>.2, ?_, hbo, by simp [hattempts, hpaced.attempts]⟩
  · simpa [hsigned] using now_le_signedPost hclock uri content g.world
  · exact hworld ▸ hclock.float64 world
  · rw [hwait, hpaced.randomizationFactor, hpaced.currentInterval]

/-- One round that ends in a wait keeps the state paced, one wait further. The
wait was granted, so at most 20 s had passed, which rules out a sixteenth wait. -/
theorem paced_of_wait {uri : String} {content : List UInt8} {k next : Nat}
    {g g₂ : a.RunState} (hpaced : Paced k g)
    (hnext : (withContext a.backOff (·.cancelled)).nextBackOff (a.operation uri content g).2 =
      (some next, g₂)) :
    Paced (k + 1) (a.sleep next g₂) := by
  obtain ⟨t, random, hafter, hwithin, hbefore, hrandom, -, hwait, hbo, hattempts⟩ :=
    wait_granted hclock hdraws hpaced hnext
  have hhalf := hwait ▸ half_le_getRandomValueFromInterval hrandom (retryInterval k)
  have hslept := hclock.sleep next g₂.world
  have helapsed := hpaced.elapsed
  have hfifteen := maxElapsedTime_lt_leastElapsed_fifteen
  refine ⟨?_, ?_, ?_, ?_, ?_, ?_, hattempts, ?_⟩
  · simp [sleep, hbo, hpaced.randomizationFactor]
  · simp [sleep, hbo, hpaced.multiplier]
  · simp [sleep, hbo, hpaced.maxInterval]
  · simp [sleep, hbo, hpaced.maxElapsedTime]
  · simp only [sleep, hbo]
    rw [ExponentialBackOff.incrementCurrentInterval_currentInterval_of_default _
      hpaced.multiplier, hpaced.currentInterval, hpaced.maxInterval, retryInterval]
  · simp only [sleep, hbo, ExponentialBackOff.incrementCurrentInterval_startTime, leastElapsed]
    omega
  · rcases Nat.lt_or_eq_of_le hpaced.bound with hlt | rfl <;> omega

/-- From a paced state with enough fuel for the attempts left of sixteen, the
loop returns, and the call has then made at most sixteen attempts. -/
theorem retryLoop_returns_of_paced (uri : String) (content : List UInt8) :
    ∀ (fuel k : Nat) (g : a.RunState), Paced k g → 16 ≤ k + fuel →
      ∃ r, retryLoop (a.operation uri content) (withContext a.backOff (·.cancelled)) a.sleep
        fuel g = some r ∧ r.state.attempts.length ≤ 16
  | 0, _, _, hpaced, hfuel => absurd hpaced.bound (by omega)
  | fuel + 1, k, g, hpaced, hfuel => by
    have hone : (a.operation uri content g).2.attempts.length = k + 1 := by
      obtain ⟨attempt, world, calls, -, hoperation⟩ := a.operation_spec uri content g
      simp [hoperation, hpaced.attempts]
    have hbound := hpaced.bound
    rcases hop : a.operation uri content g with ⟨_ | err, g₁⟩
    all_goals simp only [hop] at hone
    · -- the attempt succeeded
      exact ⟨⟨none, g₁, []⟩, by simp only [retryLoop, hop], by simp only; omega⟩
    rcases hnext : (withContext a.backOff (·.cancelled)).nextBackOff g₁ with ⟨_ | next, g₂⟩
    · -- the backoff answered `Stop`
      have hkept := (hnext ▸ nextBackOff_keeps g₁).2.2.2
      dsimp only at hkept
      exact ⟨⟨some err, g₂, [none]⟩, by simp only [retryLoop, hop, hnext], by
        simp only [hkept]; omega⟩
    have hpaced' : Paced (k + 1) (a.sleep next g₂) :=
      paced_of_wait hclock hdraws hpaced (by rw [hop]; exact hnext)
    cases hdone : (withContext a.backOff (·.cancelled)).done g₂
    · -- a wait, then the rest of the run
      obtain ⟨rest, hrest, hlength⟩ :=
        retryLoop_returns_of_paced uri content fuel (k + 1) _ hpaced' (by omega)
      exact ⟨{ rest with schedule := some next :: rest.schedule },
        by simp only [retryLoop, hop, hnext, hdone, hrest, Bool.false_eq_true, ↓reduceIte,
          Option.map_some'], hlength⟩
    · -- the context was done
      have hkept := (hnext ▸ nextBackOff_keeps g₁).2.2.2
      dsimp only at hkept
      exact ⟨⟨some err, g₂, [some next]⟩,
        by simp only [retryLoop, hop, hnext, hdone, ↓reduceIte], by simp only [hkept]; omega⟩

end Paced

theorem retrievablePost_attempts_le_sixteen (a : Core) (hclock : ClockRespected a)
    (hdraws : ∀ w, 0 ≤ (a.runtime.float64 w).1 ∧ (a.runtime.float64 w).1 < 1)
    (uri : String) (content : List UInt8) (w : a.World) (fuel : Nat) (hfuel : 16 ≤ fuel) :
    ∃ run, a.retrievablePost uri content fuel w = some run ∧ run.attempts.length ≤ 16 := by
  obtain ⟨r, hr, hlength⟩ := retryLoop_returns_of_paced hclock hdraws uri
    content fuel 0 _ (paced_start w) (by omega)
  exact ⟨a.postResult r, by simp only [retrievablePost, retry, hr, Option.map_some'], hlength⟩

/-- A CA that answers `badNonce` forever, answering at once, with draws of `0`:
the call still returns. -/
theorem retrievablePost_attempts_le_sixteen_badNonce :
    ∃ run, (sampleCore ⟨some (), some (.nonceError ("badNonce"))⟩).retrievablePost
      ("new-order") [] 16 (0 : ℕ) = some run ∧ run.attempts.length ≤ 16 :=
  retrievablePost_attempts_le_sixteen (sampleCore ⟨some (), some (.nonceError ("badNonce"))⟩)
    ⟨fun _ _ _ => le_rfl, fun _ _ _ _ => le_rfl, fun _ _ => le_rfl, fun _ => le_rfl,
      fun _ _ => le_rfl⟩
    (fun _ => ⟨le_rfl, zero_lt_one⟩) ("new-order") [] (0 : ℕ) 16 le_rfl

end Lego.Acme.Core
