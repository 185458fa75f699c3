import Mathlib.Data.Rat.Floor

/-!
# Exponential backoff

`retrievablePost` paces its retries with `ExponentialBackOff` from
`github.com/cenkalti/backoff` (v2). That library is not part of the repository;
this module follows its source. Durations and clock readings are nanoseconds,
as `time.Duration` counts them. The clock, `rand.Float64` and the timer belong
to a world the caller threads through, so that every clock and every sequence
of random draws is covered by quantifying over the world. Float64 arithmetic is
taken as exact rational arithmetic; the library's conversions to `Duration`
truncate, which is `Nat.floor` on the nonnegative values that arise.

The two facts the termination bound of the retry loop rests on are proved
here for the library's default randomization factor and multiplier: every
randomized wait is at least half the current interval, and the interval grows
by half, capped at `maxInterval`.
-/

namespace Lego.Backoff

variable {σ : Type}

/-- `time.Millisecond`, in nanoseconds. -/
def millisecond : Nat := 1000000

/-- `time.Second`, in nanoseconds. -/
def second : Nat := 1000 * millisecond

/-- `time.Minute`, in nanoseconds. -/
def minute : Nat := 60 * second

/-- What the backoff and the retry loop read from the Go runtime, over a world
`σ` that holds it: the system clock, `rand.Float64`, and a timer that fires once
the given duration has passed. -/
structure Runtime (σ : Type) where
  now : σ → Nat
  float64 : σ → ℚ × σ
  sleep : Nat → σ → σ

/-- `ExponentialBackOff`: the exported configuration and the two fields `Reset`
sets. Its `Clock` is the runtime's system clock. -/
structure ExponentialBackOff where
  initialInterval : Nat
  randomizationFactor : ℚ
  multiplier : ℚ
  maxInterval : Nat
  /-- After this much elapsed time the backoff answers `Stop`; `0` means never. -/
  maxElapsedTime : Nat
  currentInterval : Nat
  startTime : Nat
  deriving DecidableEq

/-- `DefaultInitialInterval`, 500 ms. -/
def defaultInitialInterval : Nat := 500 * millisecond

/-- `DefaultRandomizationFactor`, 0.5. -/
def defaultRandomizationFactor : ℚ := 1 / 2

/-- `DefaultMultiplier`, 1.5. -/
def defaultMultiplier : ℚ := 3 / 2

/-- `DefaultMaxInterval`, 60 s. -/
def defaultMaxInterval : Nat := 60 * second

/-- `DefaultMaxElapsedTime`, 15 min. -/
def defaultMaxElapsedTime : Nat := 15 * minute

/-- `getRandomValueFromInterval`: a value drawn from
`[currentInterval - delta, currentInterval + delta]`, where `delta` is
`randomizationFactor * currentInterval`. The `+ 1` is the library's, so that the
upper end can be drawn. -/
def getRandomValueFromInterval (randomizationFactor random : ℚ) (currentInterval : Nat) :
    Nat :=
  let delta := randomizationFactor * currentInterval
  let minInterval := (currentInterval : ℚ) - delta
  let maxInterval := (currentInterval : ℚ) + delta
  ⌊minInterval + random * (maxInterval - minInterval + 1)⌋₊

namespace ExponentialBackOff

/-- `Reset`: back to the initial interval, and restart the elapsed-time clock. -/
@[simps]
def reset (b : ExponentialBackOff) (now : Nat) : ExponentialBackOff :=
  { b with currentInterval := b.initialInterval, startTime := now }

/-- `GetElapsedTime`. Clock readings are naturals, so a reading before
`startTime` counts as no time elapsed; against a nonnegative `maxElapsedTime`
this decides the stop test as Go's signed difference does. -/
def getElapsedTime (b : ExponentialBackOff) (now : Nat) : Nat :=
  now - b.startTime

/-- `incrementCurrentInterval`: multiply the interval, or set it to
`maxInterval` once multiplying would pass it (the library's overflow guard). -/
@[simps]
def incrementCurrentInterval (b : ExponentialBackOff) : ExponentialBackOff :=
  { b with
    currentInterval :=
      if (b.currentInterval : ℚ) ≥ b.maxInterval / b.multiplier then b.maxInterval
      else ⌊(b.currentInterval : ℚ) * b.multiplier⌋₊ }

/-- `NextBackOff`: `none` is `Stop`. A random draw is taken, and the interval
incremented, only when the elapsed-time budget is not exhausted. -/
def nextBackOff (rt : Runtime σ) (b : ExponentialBackOff) (w : σ) :
    Option Nat × ExponentialBackOff × σ :=
  if b.maxElapsedTime ≠ 0 ∧ b.getElapsedTime (rt.now w) > b.maxElapsedTime then (none, b, w)
  else
    let (random, w) := rt.float64 w
    (some (getRandomValueFromInterval b.randomizationFactor random b.currentInterval),
      b.incrementCurrentInterval, w)

/-- What a wait answer tells about the call that gave it: the budget was not
spent, one random draw was taken, and the interval moved on. -/
theorem nextBackOff_eq_some {rt : Runtime σ} {b b' : ExponentialBackOff} {w w' : σ} {next : Nat}
    (h : b.nextBackOff rt w = (some next, b', w')) :
    ¬ (b.maxElapsedTime ≠ 0 ∧ b.getElapsedTime (rt.now w) > b.maxElapsedTime) ∧
      next = getRandomValueFromInterval b.randomizationFactor (rt.float64 w).1 b.currentInterval ∧
      b' = b.incrementCurrentInterval ∧ w' = (rt.float64 w).2 := by
  unfold nextBackOff at h
  split at h
  · cases h
  · simp only [Prod.mk.injEq, Option.some.injEq] at h
    exact ⟨‹_›, h.1.symm, h.2.1.symm, h.2.2.symm⟩

/-- What a `Stop` answer tells about the call that gave it: the budget is set and
spent, and neither the backoff nor the world moved. -/
theorem nextBackOff_eq_none {rt : Runtime σ} {b b' : ExponentialBackOff} {w w' : σ}
    (h : b.nextBackOff rt w = (none, b', w')) :
    b.maxElapsedTime ≠ 0 ∧ b.getElapsedTime (rt.now w) > b.maxElapsedTime ∧
      b' = b ∧ w' = w := by
  unfold nextBackOff at h
  split at h
  next hspent =>
    cases h
    exact ⟨hspent.1, hspent.2, rfl, rfl⟩
  next => simp at h

/-- `NextBackOff` keeps the start of the elapsed-time clock. -/
@[simp]
theorem nextBackOff_startTime (rt : Runtime σ) (b : ExponentialBackOff) (w : σ) :
    (b.nextBackOff rt w).2.1.startTime = b.startTime := by
  unfold nextBackOff
  split <;> rfl

/-- `NextBackOff` keeps the elapsed-time budget. -/
@[simp]
theorem nextBackOff_maxElapsedTime (rt : Runtime σ) (b : ExponentialBackOff) (w : σ) :
    (b.nextBackOff rt w).2.1.maxElapsedTime = b.maxElapsedTime := by
  unfold nextBackOff
  split <;> rfl

/-- At the default multiplier the interval grows by half, in whole nanoseconds,
until growing would pass `maxInterval`. -/
theorem incrementCurrentInterval_currentInterval_of_default (b : ExponentialBackOff)
    (hmultiplier : b.multiplier = defaultMultiplier) :
    b.incrementCurrentInterval.currentInterval =
      if 2 * b.maxInterval ≤ 3 * b.currentInterval then b.maxInterval
      else b.currentInterval * 3 / 2 := by
  have capped : (b.currentInterval : ℚ) ≥ b.maxInterval / b.multiplier ↔
      2 * b.maxInterval ≤ 3 * b.currentInterval := by
    rw [hmultiplier, defaultMultiplier, ge_iff_le, div_le_iff₀ (by norm_num),
      ← @Nat.cast_le ℚ]
    push_cast
    constructor <;> intro h <;> linarith
  have grown : ⌊(b.currentInterval : ℚ) * b.multiplier⌋₊ = b.currentInterval * 3 / 2 :=
    calc ⌊(b.currentInterval : ℚ) * b.multiplier⌋₊
        = ⌊((b.currentInterval * 3 : ℕ) : ℚ) / ((2 : ℕ) : ℚ)⌋₊ := by
          rw [hmultiplier, defaultMultiplier]; push_cast; ring_nf
      _ = b.currentInterval * 3 / 2 := Nat.floor_div_eq_div _ _
  simp only [incrementCurrentInterval_currentInterval, capped, grown]

end ExponentialBackOff

/-- With a nonnegative draw, a randomized wait is never below the low end of its
range. -/
theorem floor_sub_le_getRandomValueFromInterval {randomizationFactor random : ℚ}
    (hfactor : 0 ≤ randomizationFactor) (hrandom : 0 ≤ random) (currentInterval : Nat) :
    ⌊(currentInterval : ℚ) - randomizationFactor * currentInterval⌋₊ ≤
      getRandomValueFromInterval randomizationFactor random currentInterval := by
  have width : (currentInterval : ℚ) + randomizationFactor * currentInterval -
      ((currentInterval : ℚ) - randomizationFactor * currentInterval) + 1 =
        2 * randomizationFactor * currentInterval + 1 := by ring
  have drawn : 0 ≤ random * (2 * randomizationFactor * currentInterval + 1) := by positivity
  unfold getRandomValueFromInterval
  exact Nat.floor_le_floor (by rw [width]; linarith)

/-- At the default randomization factor every wait is at least half the current
interval, whatever the draw in `[0, 1)`. -/
theorem half_le_getRandomValueFromInterval {random : ℚ} (hrandom : 0 ≤ random)
    (currentInterval : Nat) :
    currentInterval / 2 ≤
      getRandomValueFromInterval defaultRandomizationFactor random currentInterval := by
  have half : (currentInterval : ℚ) - defaultRandomizationFactor * currentInterval =
      ((currentInterval : ℕ) : ℚ) / ((2 : ℕ) : ℚ) := by
    rw [defaultRandomizationFactor]; push_cast; ring
  have bound :
      ⌊(currentInterval : ℚ) - defaultRandomizationFactor * currentInterval⌋₊ ≤ _ :=
    floor_sub_le_getRandomValueFromInterval (by norm_num [defaultRandomizationFactor]) hrandom
      currentInterval
  rwa [half, Nat.floor_div_eq_div] at bound

/-- `NewExponentialBackOff`: the defaults, reset at the current clock reading. -/
def newExponentialBackOff (now : Nat) : ExponentialBackOff :=
  ExponentialBackOff.reset
    { initialInterval := defaultInitialInterval
      randomizationFactor := defaultRandomizationFactor
      multiplier := defaultMultiplier
      maxInterval := defaultMaxInterval
      maxElapsedTime := defaultMaxElapsedTime
      currentInterval := 0
      startTime := 0 } now

end Lego.Backoff
