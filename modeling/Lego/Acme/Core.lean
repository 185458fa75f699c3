import Lego.Backoff.Retry

/-!
# The ACME core's request path

`acme/api/api.go`: every request to the CA goes through `post` or `postAsGet`,
which hand the payload to `retrievablePost`. That retries `signedPost` under an
exponential backoff as long as the CA rejects the nonce, and cancels the retry
context on any other error.

The core's collaborators (the signer `jws`, the transport `doer`, the nonce pool
`nonceManager`) are given as the operations they offer, over a world that holds
the CA, the pool, the clock and the random source. What they answer is left open,
so every property below holds for every CA, every transport failure and every
signer. Two records the Go code does not keep are added to the state of a call:
the calls made to the collaborators, with what each returned, and the result of
each attempt. They only observe the run.
-/

namespace Lego.Acme

open Lego.Backoff

/-- The errors of the request path, told apart by the dynamic type its
`switch err.(type)` reads. -/
inductive Error where
  /-- `*acme.NonceError`: the CA answered with its `badNonce` problem type. -/
  | nonceError (message : String)
  /-- Any other error value, with the text its `Error()` returns. -/
  | other (message : String)
  deriving DecidableEq, Repr

/-- Whether an error is an `*acme.NonceError`. -/
def Error.isNonceError : Error → Bool
  | .nonceError _ => true
  | .other _ => false

/-- A Go result pair `(*http.Response, error)`, with `none` for `nil`. -/
structure Outcome (Response : Type) where
  response : Option Response
  error : Option Error

/-- The pair failed with an `*acme.NonceError`. -/
def Outcome.isNonceError {Response : Type} (o : Outcome Response) : Bool :=
  o.error.any Error.isNonceError

/-- `sender.Doer`, through the one method the request path calls. -/
structure Doer (World Response : Type) where
  /-- `Post(url, body, bodyType, response)`: the CA's answer, or a transport or
  problem error, possibly together with the response that carried it. -/
  post : String → String → String → World → Outcome Response × World

/-- `secure.JWS`, through the one method the request path calls. -/
structure JWS (World Signature : Type) where
  /-- `SignContent(url, content)`: pop a nonce and sign, or fail with an error. -/
  signContent : String → List UInt8 → World → Except String Signature × World

/-- `nonces.Manager`, through the one method the request path calls. -/
structure NonceManager (World : Type) where
  push : String → World → World

/-- `Core`, as far as its request path reads it. -/
structure Core where
  /-- What the collaborators and the Go runtime act on. -/
  World : Type
  /-- `*http.Response`. -/
  Response : Type
  /-- `*jose.JSONWebSignature`. -/
  Signature : Type
  doer : Doer World Response
  jws : JWS World Signature
  nonceManager : NonceManager World
  /-- `FullSerialize()` of a signature. -/
  fullSerialize : Signature → String
  /-- `nonces.GetFromResponse`: the `Replay-Nonce` of a response, if it has one. -/
  getFromResponse : Option Response → Option String
  /-- The clock, `rand.Float64` and the timer of the Go runtime. -/
  runtime : Runtime World

/-- A call of the request path to a collaborator, with what it returned where the
path reads it. -/
inductive Call (a : Core) where
  | signContent (url : String) (content : List UInt8) (result : Except String a.Signature)
  | post (url body bodyType : String) (result : Outcome a.Response)
  | push (nonce : String)

/-- The error `signedPost` wraps a signing failure in, with `fmt.Errorf`. -/
def signFailure (err : String) : Error :=
  .other ("failed to post JWS message -> failed to sign content -> " ++ err)

/-- The body type of every signed request. -/
def joseJSON : String := "application/jose+json"

/-- The error `post` returns when its request body does not marshal. -/
def marshalFailure : Error := .other ("failed to marshal message")

namespace Core

variable (a : Core)

/-- `signedPost`: sign, post, and push the response's nonce back into the pool
whatever the transport's error; then return what the transport returned. The
calls made come with the result. -/
def signedPost (uri : String) (content : List UInt8) (w : a.World) :
    Outcome a.Response × a.World × List (Call a) :=
  match a.jws.signContent uri content w with
  | (.error err, w) =>
    (⟨none, some (signFailure err)⟩, w, [.signContent uri content (.error err)])
  | (.ok signedContent, w) =>
    let signedBody := a.fullSerialize signedContent
    let posted := a.doer.post uri signedBody joseJSON w
    let calls :=
      [.signContent uri content (.ok signedContent), .post uri signedBody joseJSON posted.1]
    match a.getFromResponse posted.1.response with
    | some nonce => (posted.1, a.nonceManager.push nonce posted.2, calls ++ [.push nonce])
    | none => (posted.1, posted.2, calls)

/-- The state a call of `retrievablePost` runs in: the world, the backoff `bo`,
whether `cancel()` was called, the closure's captured `resp`, and the records of
the calls and of the attempts' results so far. -/
structure RunState where
  world : a.World
  bo : ExponentialBackOff
  cancelled : Bool
  resp : Option a.Response
  calls : List (Call a)
  attempts : List (Outcome a.Response)

/-- The `operation` closure of `retrievablePost`: one `signedPost`. A nonce error
is returned to be retried; any other error calls `cancel()` first. -/
def operation (uri : String) (content : List UInt8) (g : a.RunState) :
    Option Error × a.RunState :=
  let (attempt, world, calls) := a.signedPost uri content g.world
  let g := { g with
    world := world, resp := attempt.response, calls := g.calls ++ calls
    attempts := g.attempts ++ [attempt] }
  match attempt.error with
  | none => (none, g)
  | some (.nonceError message) => (some (.nonceError message), g)
  | some err => (some err, { g with cancelled := true })

/-- The exponential backoff of a call, acting on its `bo` field and on the world's
clock and random source. -/
def backOff : BackOff a.RunState where
  nextBackOff g :=
    let answered := g.bo.nextBackOff a.runtime g.world
    (answered.1, { g with bo := answered.2.1, world := answered.2.2 })
  reset g := { g with bo := g.bo.reset (a.runtime.now g.world) }

@[simp]
theorem backOff_reset (g : a.RunState) :
    a.backOff.reset g = { g with bo := g.bo.reset (a.runtime.now g.world) } := rfl

/-- The retry timer, firing after `next`. -/
def sleep (next : Nat) (g : a.RunState) : a.RunState :=
  { g with world := a.runtime.sleep next g.world }

/-- The backoff `retrievablePost` configures: 200 ms initial interval, 5 s
maximum interval, 20 s maximum elapsed time, and the library's defaults
otherwise. -/
def retrievableBackOff (now : Nat) : ExponentialBackOff :=
  { newExponentialBackOff now with
    initialInterval := 200 * millisecond
    maxInterval := 5 * second
    maxElapsedTime := 20 * second }

/-- What a call of `retrievablePost`, `post` or `postAsGet` leaves: its result, the
world after it, and the records of its calls, of its attempts' results and of the
backoff's answers. -/
structure PostRun where
  outcome : Outcome a.Response
  world : a.World
  calls : List (Call a)
  attempts : List (Outcome a.Response)
  schedule : List (Option Nat)

/-- The state the retry loop of `retrievablePost` starts from. -/
def startState (w : a.World) : a.RunState :=
  { world := w, bo := retrievableBackOff (a.runtime.now w), cancelled := false
    resp := none, calls := [], attempts := [] }

/-- The end of `retrievablePost`: `nil` and the error if `Retry` returned one,
otherwise the captured `resp` and `nil`. -/
def postResult (r : Retried Error a.RunState) : a.PostRun where
  outcome :=
    match r.err with
    | some err => ⟨none, some err⟩
    | none => ⟨r.state.resp, none⟩
  world := r.state.world
  calls := r.state.calls
  attempts := r.state.attempts
  schedule := r.schedule

/-- `retrievablePost`, with at most `fuel` attempts. -/
def retrievablePost (uri : String) (content : List UInt8) (fuel : Nat) (w : a.World) :
    Option a.PostRun :=
  (retry (a.operation uri content) (withContext a.backOff (·.cancelled)) a.sleep fuel
    (a.startState w)).map a.postResult

/-- `post`: marshal the request body to JSON and post it. `json.Marshal` is given
by its result. -/
def post (uri : String) (marshalled : Except String (List UInt8)) (fuel : Nat) (w : a.World) :
    Option a.PostRun :=
  match marshalled with
  | .error _ => some ⟨⟨none, some marshalFailure⟩, w, [], [], []⟩
  | .ok content => a.retrievablePost uri content fuel w

/-- `postAsGet`: a POST with an empty payload. -/
def postAsGet (uri : String) (fuel : Nat) (w : a.World) : Option a.PostRun :=
  a.retrievablePost uri [] fuel w

/-! ## What each step of a call does -/

/-- A signed attempt's result is the transport's answer: pushing the nonce back
does not change it. -/
theorem signedPost_outcome_of_signed {uri : String} {content : List UInt8} {w : a.World}
    {signature : a.Signature}
    (hsigned : (a.jws.signContent uri content w).1 = .ok signature) :
    (a.signedPost uri content w).1 =
      (a.doer.post uri (a.fullSerialize signature) joseJSON
        (a.jws.signContent uri content w).2).1 := by
  rcases hs : a.jws.signContent uri content w with ⟨_ | signature', w'⟩ <;>
    rw [hs] at hsigned <;> cases hsigned
  simp only [signedPost, hs]
  split <;> rfl

/-- One attempt: record it and the calls it made, capture its response, and
cancel the context exactly when its error is not a nonce error. -/
theorem operation_spec (uri : String) (content : List UInt8) (g : a.RunState) :
    ∃ attempt world calls, a.signedPost uri content g.world = (attempt, world, calls) ∧
      a.operation uri content g =
        (attempt.error,
          { g with
            world := world, resp := attempt.response, calls := g.calls ++ calls
            attempts := g.attempts ++ [attempt]
            cancelled := g.cancelled || attempt.error.any (!·.isNonceError) }) := by
  rcases hs : a.signedPost uri content g.world with
    ⟨⟨response, _ | _ | _⟩, world, calls⟩ <;>
    exact ⟨_, world, calls, rfl, by simp [operation, hs, Error.isNonceError]⟩

variable {a}

/-- The backoff leaves the context, `resp` and the records as they were. -/
theorem nextBackOff_keeps (g : a.RunState) :
    let g' := ((withContext a.backOff (·.cancelled)).nextBackOff g).2
    g'.cancelled = g.cancelled ∧ g'.resp = g.resp ∧ g'.calls = g.calls ∧
      g'.attempts = g.attempts := by
  simp only [withContext_nextBackOff]
  split <;> exact ⟨rfl, rfl, rfl, rfl⟩

/-- A wait is granted only while the context is live, and it is the exponential
backoff's answer. -/
theorem nextBackOff_eq_some {g g' : a.RunState} {next : Nat}
    (h : (withContext a.backOff (·.cancelled)).nextBackOff g = (some next, g')) :
    g.cancelled = false ∧ g.bo.nextBackOff a.runtime g.world = (some next, g'.bo, g'.world) := by
  rw [withContext_nextBackOff] at h
  split at h
  · cases h
  · rename_i hcancelled
    simp only [backOff, Prod.mk.injEq] at h
    obtain ⟨hnext, rfl⟩ := h
    exact ⟨by simpa using hcancelled, by rw [← hnext]⟩

/-- `Stop` from a live context is the exponential backoff's: its elapsed-time
budget is set and spent, and the world did not move. -/
theorem nextBackOff_eq_none {g g' : a.RunState}
    (h : (withContext a.backOff (·.cancelled)).nextBackOff g = (none, g'))
    (hlive : g.cancelled = false) :
    g.bo.maxElapsedTime ≠ 0 ∧
      g.bo.getElapsedTime (a.runtime.now g.world) > g.bo.maxElapsedTime ∧
      g'.world = g.world := by
  rw [withContext_nextBackOff, hlive, if_neg Bool.false_ne_true] at h
  simp only [backOff, Prod.mk.injEq] at h
  obtain ⟨hstop, rfl⟩ := h
  obtain ⟨hset, hspent, -, hworld⟩ :=
    ExponentialBackOff.nextBackOff_eq_none (Prod.ext hstop rfl)
  exact ⟨hset, hspent, hworld⟩

/-- The backoff keeps the start of its clock and its elapsed-time budget. -/
theorem nextBackOff_keeps_budget (g : a.RunState) :
    let g' := ((withContext a.backOff (·.cancelled)).nextBackOff g).2
    g'.bo.startTime = g.bo.startTime ∧ g'.bo.maxElapsedTime = g.bo.maxElapsedTime := by
  simp only [withContext_nextBackOff]
  split <;> simp [backOff]

/-- A finished call is the epilogue of a finished run of the loop, from the reset
start state. -/
theorem retrievablePost_eq_some {uri : String} {content : List UInt8} {fuel : Nat}
    {w : a.World} {run : a.PostRun} (h : a.retrievablePost uri content fuel w = some run) :
    ∃ r, retry (a.operation uri content) (withContext a.backOff (·.cancelled)) a.sleep fuel
      (a.startState w) = some r ∧ run = a.postResult r := by
  obtain ⟨r, hr, rfl⟩ := Option.map_eq_some'.mp h
  exact ⟨r, hr, rfl⟩

end Core

/-! ## Sample cores -/

/-- A core over a world that is only the clock: the signer always signs, the CA
gives `answer` to every request along with a nonce, every draw is `0`, and only
the timer moves the clock. With a `badNonce` answer it drives the retry loop
through its longest run. -/
def sampleCore (answer : Outcome Unit) : Core where
  World := Nat
  Response := Unit
  Signature := Unit
  doer := ⟨fun _ _ _ w => (answer, w)⟩
  jws := ⟨fun _ _ w => (.ok (), w)⟩
  nonceManager := ⟨fun _ w => w⟩
  fullSerialize _ := "jws"
  getFromResponse response := response.map fun _ => "nonce"
  runtime := ⟨id, fun w => (0, w), fun next w => w + next⟩

/-- A CA that rejects the nonce of the first request and refuses every later one
with an error that is not a nonce error, each answer carrying a nonce. The world
is the clock, moved only by the timer, and the count of answers given; the
signer always signs and every draw is `0`. -/
def refusingCore : Core where
  World := Nat × Nat
  Response := Unit
  Signature := Unit
  doer := ⟨fun _ _ _ w =>
    (if w.2 = 0 then ⟨some (), some (.nonceError ("badNonce"))⟩
      else ⟨some (), some (.other ("unauthorized"))⟩, (w.1, w.2 + 1))⟩
  jws := ⟨fun _ _ w => (.ok (), w)⟩
  nonceManager := ⟨fun _ w => w⟩
  fullSerialize _ := "jws"
  getFromResponse response := response.map fun _ => "nonce"
  runtime := ⟨Prod.fst, fun w => (0, w), fun next w => (w.1 + next, w.2)⟩

end Lego.Acme
