import Lego.Acme.Core
import Lego.Acme.Nonces

/-!
# A core with its nonce pool

The request path of `api.go` sees the signer and the nonce manager only through
their methods. Here they are filled in with the manager of `Nonces`: the signer
takes the nonce of each request through `Nonce`, and the `Push` of `signedPost`
is the manager's. The CA, the clock and the random source stay open, in a state
`σ`, so what follows holds for every CA.

`New` gives every request of a core one manager, and the spec has the tasks of
an order make their requests concurrently. The manager's mutex makes each `Pop`
and each `Push` one step, and nothing else a call does reads or writes the pool,
so whatever the other tasks do to it reaches a call at the moments it takes the
lock: their requests, read from the schedule the state `σ` holds, are served
then. Every interleaving is one such schedule.

What a call does to the pool is made of the manager's own requests, so the
conservation law of `Nonces` holds after every call, and a CA that never sends a
nonce twice sees no two requests signed under one nonce, in one call or across
calls made one after another, whatever the other tasks do. Since `signedPost`
pushes back the nonce of a rejected attempt too, a core that no other task
shares, over a CA that sends a nonce with every answer, makes a `HEAD` request
only when the pool is empty at the start of a call; a core that is shared may
find the nonce taken and make one for its retry.
-/

namespace Lego.Acme

open Lego.Backoff Lego.Acme.Nonces

/-- A JWS as the request path reads it: the URL and nonce of its protected
header, its payload, and the signature value. Modelled from the spec: "a JWS
envelope over a protected header (algorithm, key/kid, nonce, target URL) and
payload". -/
structure JSONWebSignature (Sig : Type) where
  url : String
  nonce : String
  payload : List UInt8
  signature : Sig

/-- What a core with a nonce pool is made of besides the pool: the state `σ` of
the CA, of the Go runtime and of the other tasks, the CA's answers to `HEAD` and
`POST`, the `Replay-Nonce` header of its responses, the account key's signer,
and the serialization of a JWS. -/
structure Pooled where
  σ : Type
  Response : Type
  /-- Signature values. -/
  Sig : Type
  replayNonce : Response → String
  head : String → σ → Except String (Option Response) × σ
  post : String → String → String → σ → Outcome Response × σ
  /-- `jose.NewSigner` for the account key: it fails for a key it cannot sign
  with. -/
  newSigner : Except String Unit
  /-- Signing a payload for a URL under a nonce, or the signer's error. -/
  sign : String → List UInt8 → String → Except String Sig
  fullSerialize : JSONWebSignature Sig → String
  /-- The requests the other tasks sharing the manager made of it since this one
  last held its lock, as the schedule in `σ` has them. -/
  others : σ → List (Request Response) × σ
  runtime : Runtime σ

/-- The world of a pooled core: the recorded pool, and the rest. -/
structure PoolWorld (σ : Type) where
  pool : Pool
  ca : σ

namespace Pooled

variable (p : Pooled)

/-- The world as this task finds it on taking the manager's lock: the other
tasks' requests are served first. -/
def interleave (w : PoolWorld p.σ) : PoolWorld p.σ :=
  ⟨w.pool.serve p.replayNonce (p.others w.ca).1, (p.others w.ca).2⟩

/-- The error `Sign` returns when its nonce source fails. Modelled from the spec:
`Pop` "fails only if that fetch fails"; the text is the signing library's. -/
def nonceFailure (err : String) : String := "square/go-jose: Error generating nonce: " ++ err

/-- `Sign`, under what `Nonce` answered: a failed `Nonce` fails it, and otherwise
the content is signed for the URL under the nonce. Modelled from the spec: it
"signs payload+header with the account private key". -/
def signUnder (url : String) (content : List UInt8) :
    Except String String → Except String (JSONWebSignature p.Sig)
  | .error err => .error ("failed to sign content -> " ++ nonceFailure err)
  | .ok nonce =>
    ((p.sign url content nonce).mapError ("failed to sign content -> " ++ ·)).map
      (⟨url, nonce, content, ·⟩)

/-- `SignContent`: make the signer for the account key, then sign under a nonce
taken through `Nonce`, under the manager's lock. Modelled from the spec: it "pops
one nonce, builds a protected header binding {alg, url, nonce, kid-or-jwk},
signs payload+header with the account private key", and "signing failures
(malformed key, unsupported algorithm) are permanent"; as in the package, a key
the signer cannot use fails before any nonce is taken. -/
def signContent (url : String) (content : List UInt8) (w : PoolWorld p.σ) :
    Except String (JSONWebSignature p.Sig) × PoolWorld p.σ :=
  match p.newSigner with
  | .error err => (.error ("failed to create jose signer -> " ++ err), w)
  | .ok () =>
    let w := p.interleave w
    let taken := w.pool.nonce p.replayNonce p.head w.ca
    (p.signUnder url content taken.1, ⟨taken.2.1, taken.2.2⟩)

/-- The core whose signer and nonce manager share the pool. -/
def core : Core where
  World := PoolWorld p.σ
  Response := p.Response
  Signature := JSONWebSignature p.Sig
  doer := ⟨fun url body bodyType w =>
    let (answer, ca) := p.post url body bodyType w.ca
    (answer, { w with ca := ca })⟩
  jws := ⟨p.signContent⟩
  nonceManager := ⟨fun nonce w =>
    let w := p.interleave w
    { w with pool := w.pool.push nonce }⟩
  fullSerialize := p.fullSerialize
  getFromResponse response := (Nonces.getFromResponse p.replayNonce response).toOption
  runtime :=
    { now := fun w => p.runtime.now w.ca
      float64 := fun w =>
        let (random, ca) := p.runtime.float64 w.ca
        (random, { w with ca := ca })
      sleep := fun next w => { w with ca := p.runtime.sleep next w.ca } }

/-- The nonces of the JWS a record of calls shows signed, in order. -/
def signedNonces (calls : List (Call p.core)) : List String :=
  calls.filterMap fun
    | .signContent _ _ (.ok signature) => some (JSONWebSignature.nonce signature)
    | _ => none

@[simp]
theorem core_signContent : p.core.jws.signContent = p.signContent := rfl

@[simp]
theorem core_post (url body bodyType : String) (w : PoolWorld p.σ) :
    p.core.doer.post url body bodyType w =
      ((p.post url body bodyType w.ca).1, { w with ca := (p.post url body bodyType w.ca).2 }) :=
  rfl

/-- A `Push` serves the other tasks' requests, then its own. -/
@[simp]
theorem core_push_pool (nonce : String) (w : PoolWorld p.σ) :
    (p.core.nonceManager.push nonce w).pool =
      w.pool.serve p.replayNonce ((p.others w.ca).1 ++ [.push nonce]) := by
  rw [Pool.serve_append]
  rfl

@[simp]
theorem core_getFromResponse (response : Option p.Response) :
    p.core.getFromResponse response = (Nonces.getFromResponse p.replayNonce response).toOption :=
  rfl

@[simp]
theorem core_fullSerialize : p.core.fullSerialize = p.fullSerialize := rfl

@[simp]
theorem signedNonces_append (calls calls' : List (Call p.core)) :
    p.signedNonces (calls ++ calls') = p.signedNonces calls ++ p.signedNonces calls' :=
  List.filterMap_append _ _ _

/-! ## One attempt -/

variable {p}

/-- `Sign` signs only under the nonce `Nonce` answered with. -/
theorem signUnder_nonce (url : String) (content : List UInt8) (taken : Except String String) :
    ((p.signUnder url content taken).toOption.map JSONWebSignature.nonce).toList.Sublist
      taken.toOption.toList := by
  rcases taken with err | nonce
  · simp [signUnder, Except.toOption]
  · rcases hsign : p.sign url content nonce <;>
      simp [signUnder, hsign, Except.toOption, Except.mapError, Except.map]

/-- `SignContent` serves requests of the manager, the other tasks' and then its
own `Nonce`, and signs only under the nonce handed out to it. -/
theorem signContent_accounted (url : String) (content : List UInt8) (w : PoolWorld p.σ) :
    let signed := p.signContent url content w
    (∃ requests, signed.2.pool = w.pool.serve p.replayNonce requests) ∧
      (w.pool.handedOut ++ (signed.1.toOption.map JSONWebSignature.nonce).toList).Sublist
        signed.2.pool.handedOut := by
  dsimp only
  rcases hsigner : p.newSigner with err | ⟨⟩ <;> simp only [signContent, hsigner]
  · -- the signer cannot be made: nothing is taken
    exact ⟨⟨[], rfl⟩, by simp [Except.toOption]⟩
  set w₁ := p.interleave w
  obtain ⟨requests, hserve⟩ := w₁.pool.nonce_eq_serve p.replayNonce p.head w₁.ca
  obtain ⟨hhanded, -⟩ := @Pool.nonce_records _ _ p.replayNonce p.head w₁.pool w₁.ca
  obtain ⟨more, hmore⟩ := w.pool.handedOut_prefix_serve p.replayNonce (p.others w.ca).1
  refine ⟨⟨(p.others w.ca).1 ++ requests, by rw [hserve, Pool.serve_append]; rfl⟩, ?_⟩
  rw [hhanded, show w₁.pool.handedOut = w.pool.handedOut ++ more from hmore.symm,
    List.append_assoc]
  exact ((signUnder_nonce _ _ _).trans (List.sublist_append_right _ _)).append_left _

/-- The signatures an attempt's record shows are the one its `SignContent` made,
if it made one. -/
theorem signedNonces_signedPost (uri : String) (content : List UInt8) (w : PoolWorld p.σ) :
    p.signedNonces (p.core.signedPost uri content w).2.2 =
      ((p.signContent uri content w).1.toOption.map JSONWebSignature.nonce).toList := by
  rcases hs : p.signContent uri content w with ⟨err | signature, w₁⟩
  · simp [Core.signedPost, hs, signedNonces, Except.toOption]
  · simp only [Core.signedPost, core_signContent, hs]
    split <;> simp [signedNonces, Except.toOption]

/-- After its `SignContent`, an attempt changes the pool at most by the `Push` of
its answer's nonce, which the other tasks' requests precede; and when it fails
on its nonce against a CA whose answers carry nonces, it does push. -/
theorem signedPost_pool (uri : String) (content : List UInt8) (w : PoolWorld p.σ) :
    let signed := p.signContent uri content w
    let pool := (p.core.signedPost uri content w).2.1.pool
    (pool = signed.2.pool ∨
      ∃ s nonce, pool = signed.2.pool.serve p.replayNonce ((p.others s).1 ++ [.push nonce])) ∧
    ((∀ url body bodyType s, ∃ nonce,
        Nonces.getFromResponse p.replayNonce (p.post url body bodyType s).1.response =
          .ok nonce) →
      (p.core.signedPost uri content w).1.isNonceError →
      ∃ s nonce, pool = signed.2.pool.serve p.replayNonce ((p.others s).1 ++ [.push nonce])) := by
  dsimp only
  rcases hs : p.signContent uri content w with ⟨err | signature, w₁⟩
  · -- the signing failed: no `POST`, and a failure that is not a nonce error
    simp [Core.signedPost, hs, Outcome.isNonceError, signFailure, Error.isNonceError]
  · simp only [Core.signedPost, core_signContent, hs, core_post, core_fullSerialize,
      core_getFromResponse]
    rcases hreturned : Nonces.getFromResponse p.replayNonce
      (p.post uri (p.fullSerialize signature) joseJSON w₁.ca).1.response with err' | returned
    · simp only [hreturned, Except.toOption]
      refine ⟨.inl trivial, fun hanswers _ => ?_⟩
      -- the CA's answer carries a nonce after all
      obtain ⟨nonce, hnonce⟩ := hanswers uri (p.fullSerialize signature) joseJSON w₁.ca
      rw [hnonce] at hreturned
      cases hreturned
    · simp only [hreturned, Except.toOption, core_push_pool]
      exact ⟨.inr ⟨_, returned, rfl⟩, fun _ _ => ⟨_, returned, rfl⟩⟩

/-- An attempt serves requests of the manager, and its record signs only under
nonces handed out to it. -/
theorem signedPost_accounted (uri : String) (content : List UInt8) (w : PoolWorld p.σ) :
    let attempt := p.core.signedPost uri content w
    (∃ requests, attempt.2.1.pool = w.pool.serve p.replayNonce requests) ∧
      (w.pool.handedOut ++ p.signedNonces attempt.2.2).Sublist attempt.2.1.pool.handedOut := by
  dsimp only
  obtain ⟨⟨requests, hserve⟩, hsigned⟩ := signContent_accounted uri content w
  obtain ⟨hpool, -⟩ := signedPost_pool uri content w
  rw [signedNonces_signedPost]
  obtain ⟨more, hpool⟩ : ∃ more, (p.core.signedPost uri content w).2.1.pool =
      (p.signContent uri content w).2.pool.serve p.replayNonce more := by
    rcases hpool with hpool | ⟨s, nonce, hpool⟩
    exacts [⟨[], hpool⟩, ⟨_, hpool⟩]
  rw [hpool]
  rw [hserve] at hsigned ⊢
  exact ⟨⟨requests ++ more, (Pool.serve_append _ _ _ _).symm⟩,
    hsigned.trans (Pool.handedOut_prefix_serve _ _ _).sublist⟩

/-! ## The pool over a call -/

/-- The backoff leaves the pool alone: it reads only the clock and the random
source. -/
theorem nextBackOff_pool (g : p.core.RunState) :
    ((withContext p.core.backOff (·.cancelled)).nextBackOff g).2.world.pool = g.world.pool := by
  simp only [withContext_nextBackOff]
  split
  · rfl
  · simp only [Core.backOff]
    unfold ExponentialBackOff.nextBackOff
    split <;> rfl

/-- What a call of a pooled core keeps: the conservation law of the pool, and
the nonces signed before it, then those its record of calls shows signed, are
among those the pool handed out, in order. -/
structure Accounted (start prior : List String) (g : p.core.RunState) : Prop where
  balanced : Balanced start g.world.pool
  signed : (prior ++ p.signedNonces g.calls).Sublist g.world.pool.handedOut

theorem accounted_operation (uri : String) (content : List UInt8) {start prior : List String}
    {g : p.core.RunState} (h : Accounted start prior g) :
    Accounted start prior (p.core.operation uri content g).2 := by
  obtain ⟨attempt, world, calls, hs, hop⟩ := p.core.operation_spec uri content g
  obtain ⟨⟨requests, hserve⟩, hsigned⟩ := signedPost_accounted uri content g.world
  simp only [hs] at hserve hsigned
  rw [hop]
  refine ⟨hserve ▸ h.balanced.serve p.replayNonce requests, ?_⟩
  show (prior ++ p.signedNonces (g.calls ++ calls)).Sublist world.pool.handedOut
  rw [signedNonces_append, ← List.append_assoc]
  exact (h.signed.append_right _).trans hsigned

theorem accounted_nextBackOff {start prior : List String} {g : p.core.RunState}
    (h : Accounted start prior g) :
    Accounted start prior ((withContext p.core.backOff (·.cancelled)).nextBackOff g).2 := by
  obtain ⟨-, -, hcalls, -⟩ := Core.nextBackOff_keeps g
  have hpool := nextBackOff_pool g
  exact ⟨hpool ▸ h.balanced, hpool ▸ hcalls ▸ h.signed⟩

/-- A call keeps the law of the pool, and adds the nonces it signs after those
signed before it. -/
theorem accounted_retrievablePost {uri : String} {content : List UInt8} {fuel : Nat}
    {start prior : List String} {w : PoolWorld p.σ} {run : p.core.PostRun}
    (hbalanced : Balanced start w.pool) (hprior : prior.Sublist w.pool.handedOut)
    (hrun : p.core.retrievablePost uri content fuel w = some run) :
    Balanced start run.world.pool ∧
      (prior ++ p.signedNonces run.calls).Sublist run.world.pool.handedOut := by
  obtain ⟨r, hr, rfl⟩ := Core.retrievablePost_eq_some hrun
  have haccounted : Accounted start prior r.state := by
    refine retry_invariant (Accounted start prior) ?_ ?_ ?_ ?_ ?_ hr
    · exact fun _ => accounted_operation uri content
    · exact fun _ => accounted_nextBackOff
    · -- the timer and the reset leave the pool and the records alone
      exact fun _ _ h => ⟨h.balanced, h.signed⟩
    · exact fun _ h => ⟨h.balanced, h.signed⟩
    · exact ⟨hbalanced, by simpa [Core.startState, signedNonces] using hprior⟩
  exact ⟨haccounted.balanced, haccounted.signed⟩

/-- A CA that never sends a nonce twice sees every request of a call signed
under its own nonce, none of which is left in the pool. -/
theorem retrievablePost_signs_distinct_nonces (p : Pooled) (uri : String)
    (content : List UInt8) (fuel : Nat) (m : Manager) (ca : p.σ) (run : p.core.PostRun)
    (hrun : p.core.retrievablePost uri content fuel (⟨Pool.start m, ca⟩ : PoolWorld p.σ) =
      some run)
    (hfresh : (m.nonces ++ run.world.pool.issued).Nodup) :
    (p.signedNonces run.calls).Nodup ∧
      ∀ nonce ∈ p.signedNonces run.calls, nonce ∉ run.world.pool.manager.nonces := by
  obtain ⟨hbalanced, hsigned⟩ :=
    accounted_retrievablePost (balanced_start m) List.Sublist.slnil hrun
  obtain ⟨hnodup, hgone⟩ := hbalanced.handedOut_nodup hfresh
  exact ⟨hsigned.nodup hnodup, fun nonce hin => hgone nonce (hsigned.subset hin)⟩

/-- A pooled core over a CA that rejects its first request as `badNonce` and
accepts the next, each answer carrying a nonce, and answers a `HEAD` with the
nonce `fresh`; the first part of the state counts the answers. The manager is
shared: each time this task takes its lock, the other tasks have made the
requests the schedule, the second part of the state, lists next. -/
def contendedPooled : Pooled where
  σ := Nat × List (List (Request String))
  Response := String
  Sig := Unit
  replayNonce := id
  head _ s := (.ok (some "fresh"), s)
  post _ _ _ s :=
    (if s.1 = 0 then ⟨some "retry", some (.nonceError ("badNonce"))⟩ else ⟨some "next", none⟩,
      (s.1 + 1, s.2))
  newSigner := .ok ()
  sign _ _ _ := .ok ()
  fullSerialize _ := "jws"
  others s := (s.2.headD [], (s.1, s.2.tail))
  runtime := ⟨fun _ => 0, fun s => (0, s), fun _ s => s⟩

/-- While the call waits to retry its rejected request, another task takes the
nonce the rejection brought back: the retry fetches a fresh one, and the call's
two signatures still carry distinct nonces. -/
theorem retrievablePost_signs_distinct_nonces_contended :
    ∃ run, contendedPooled.core.retrievablePost ("new-order") [] 2
        (⟨Pool.start ⟨"new-nonce", ["pooled"]⟩, (0, [[], [], [.pop]])⟩ :
          PoolWorld (Nat × List (List (Request String)))) = some run ∧
      run.world.pool.handedOut = ["pooled", "retry", "fresh"] ∧
      contendedPooled.signedNonces run.calls = ["pooled", "fresh"] ∧
      (["pooled"] ++ run.world.pool.issued).Nodup ∧
      (contendedPooled.signedNonces run.calls).Nodup ∧
      ∀ nonce ∈ contendedPooled.signedNonces run.calls,
        nonce ∉ run.world.pool.manager.nonces := by
  refine ⟨_, rfl, rfl, rfl, by decide, ?_⟩
  exact retrievablePost_signs_distinct_nonces contendedPooled ("new-order") [] 2
    ⟨"new-nonce", ["pooled"]⟩ (0, [[], [], [.pop]]) _ rfl (by decide)

/-- Calls of `retrievablePost` made one after another on one pooled core, each
on the world the one before it left; `none` if one of them runs out of fuel. -/
def retrievablePosts (p : Pooled) (fuel : Nat) :
    List (String × List UInt8) → PoolWorld p.σ →
      Option (List p.core.PostRun × PoolWorld p.σ)
  | [], w => some ([], w)
  | (uri, content) :: requests, w =>
    (p.core.retrievablePost uri content fuel w).bind fun run =>
      (retrievablePosts p fuel requests run.world).map fun (runs, w') => (run :: runs, w')

/-- Calls one after another keep the law of the pool, and add the nonces each
signs after those signed before it. -/
theorem accounted_retrievablePosts {fuel : Nat} {start : List String} :
    ∀ {requests : List (String × List UInt8)} {prior : List String} {w w' : PoolWorld p.σ}
      {runs : List p.core.PostRun},
      Balanced start w.pool → prior.Sublist w.pool.handedOut →
      p.retrievablePosts fuel requests w = some (runs, w') →
      Balanced start w'.pool ∧
        (prior ++ runs.flatMap fun run => p.signedNonces run.calls).Sublist w'.pool.handedOut
  | [], _, _, _, _, hbalanced, hprior, h => by
    obtain ⟨rfl, rfl⟩ := Prod.mk.inj (Option.some.inj h)
    simpa using ⟨hbalanced, hprior⟩
  | (uri, content) :: requests, prior, w, w', runs, hbalanced, hprior, h => by
    simp only [retrievablePosts, Option.bind_eq_some, Option.map_eq_some'] at h
    obtain ⟨run, hrun, ⟨runs, w''⟩, hrest, heq⟩ := h
    cases heq
    obtain ⟨hbalanced, hprior⟩ := accounted_retrievablePost hbalanced hprior hrun
    rw [List.flatMap_cons, ← List.append_assoc]
    exact accounted_retrievablePosts hbalanced hprior hrest

/-- Over any sequence of calls on one core, a CA that never sends a nonce twice
sees no two requests signed under one nonce, within a call or across calls. -/
theorem retrievablePosts_sign_distinct_nonces (p : Pooled) (fuel : Nat)
    (requests : List (String × List UInt8)) (m : Manager) (ca : p.σ)
    (runs : List p.core.PostRun) (w' : PoolWorld p.σ)
    (hruns : p.retrievablePosts fuel requests ⟨Pool.start m, ca⟩ = some (runs, w'))
    (hfresh : (m.nonces ++ w'.pool.issued).Nodup) :
    (runs.flatMap fun run => p.signedNonces run.calls).Nodup := by
  obtain ⟨hbalanced, hsigned⟩ :=
    accounted_retrievablePosts (balanced_start m) List.Sublist.slnil hruns
  exact hsigned.nodup (hbalanced.handedOut_nodup hfresh).1

/-- A pooled core no other task shares, over a CA that accepts every request and
answers each with the next of the nonces it has yet to issue, its state. -/
def issuingPooled : Pooled where
  σ := List String
  Response := String
  Sig := Unit
  replayNonce := id
  head _ s := (.ok s.head?, s.tail)
  post _ _ _ s := (⟨s.head?, none⟩, s.tail)
  newSigner := .ok ()
  sign _ _ _ := .ok ()
  fullSerialize _ := "jws"
  others s := ([], s)
  runtime := ⟨fun _ => 0, fun s => (0, s), fun _ s => s⟩

/-- Two calls, the second signed under the nonce the first one's answer brought. -/
theorem retrievablePosts_sign_distinct_nonces_issued :
    ∃ runs w', issuingPooled.retrievablePosts 1 [("new-account", []), ("new-order", [])]
        ⟨Pool.start ⟨"new-nonce", ["pooled"]⟩, ["first", "second"]⟩ = some (runs, w') ∧
      (["pooled"] ++ w'.pool.issued).Nodup ∧
      (runs.flatMap fun run => issuingPooled.signedNonces run.calls).Nodup := by
  refine ⟨_, _, rfl, by decide, ?_⟩
  exact retrievablePosts_sign_distinct_nonces issuingPooled 1
    [("new-account", []), ("new-order", [])] ⟨"new-nonce", ["pooled"]⟩ ["first", "second"]
    _ _ rfl (by decide)

/-! ## `HEAD` requests of a core no other task shares -/

section Exclusive

variable (hexclusive : ∀ s, (p.others s).1 = [])

include hexclusive

/-- With no other task, taking the lock finds the pool as this task left it. -/
theorem interleave_pool_of_exclusive (w : PoolWorld p.σ) : (p.interleave w).pool = w.pool := by
  simp [interleave, hexclusive w.ca, Pool.serve]

/-- With no other task, an attempt makes a `HEAD` request only when it finds the
pool empty. -/
theorem heads_signedPost_le (uri : String) (content : List UInt8) (w : PoolWorld p.σ) :
    (p.core.signedPost uri content w).2.1.pool.heads ≤
      w.pool.heads + if w.pool.manager.nonces = [] then 1 else 0 := by
  have hsigned : (p.signContent uri content w).2.pool.heads ≤
      w.pool.heads + if w.pool.manager.nonces = [] then 1 else 0 := by
    rcases hsigner : p.newSigner with err | ⟨⟩
    · simp [signContent, hsigner]
    · simp [signContent, hsigner, Pool.nonce_records, interleave_pool_of_exclusive hexclusive]
  -- a `Push` of another task's making would be the only other change
  obtain ⟨hpool | ⟨s, nonce, hpool⟩, -⟩ := signedPost_pool uri content w <;> rw [hpool]
  · exact hsigned
  · simpa [hexclusive s, Pool.serve, Pool.serveOne] using hsigned

omit hexclusive in
/-- An attempt that fails on its nonce, against a CA whose answers carry nonces,
leaves the pool holding the nonce it pushed back. -/
theorem nonces_ne_nil_of_nonceError
    (hanswers : ∀ url body bodyType s, ∃ nonce,
      Nonces.getFromResponse p.replayNonce (p.post url body bodyType s).1.response = .ok nonce)
    {uri : String} {content : List UInt8} {w : PoolWorld p.σ}
    (hnonce : (p.core.signedPost uri content w).1.isNonceError) :
    (p.core.signedPost uri content w).2.1.pool.manager.nonces ≠ [] := by
  obtain ⟨-, hpushed⟩ := signedPost_pool uri content w
  obtain ⟨s, nonce, hpool⟩ := hpushed hanswers hnonce
  simp [hpool, Pool.serve_append, Pool.serve, Pool.serveOne, Pool.push, Manager.push]

/-- Over the rest of a run of a core no other task shares, a CA whose answers
carry nonces draws at most the one `HEAD` request of a first attempt that finds
the pool empty. -/
theorem retryLoop_heads_le
    (hanswers : ∀ url body bodyType s, ∃ nonce,
      Nonces.getFromResponse p.replayNonce (p.post url body bodyType s).1.response = .ok nonce)
    (uri : String) (content : List UInt8) :
    ∀ {fuel : Nat} {g : p.core.RunState} {r : Retried Error p.core.RunState},
      retryLoop (p.core.operation uri content) (withContext p.core.backOff (·.cancelled))
        p.core.sleep fuel g = some r →
      r.state.world.pool.heads ≤
        g.world.pool.heads + if g.world.pool.manager.nonces = [] then 1 else 0
  | 0, _, _, h => by cases h
  | fuel + 1, g, r, h => by
    obtain ⟨attempt, world, calls, hs, hoperation⟩ := p.core.operation_spec uri content g
    have hheads := heads_signedPost_le hexclusive uri content g.world
    simp only [hs] at hheads
    rcases retryLoop_eq_some h with
      ⟨g₁, hop, rfl⟩ | ⟨err, g₁, g₂, hop, hb, rfl⟩ |
      ⟨err, g₁, next, g₂, hop, hb, -, rfl⟩ |
      ⟨err, g₁, next, g₂, rest, hop, hb, hdone, hrest, rfl⟩
    · -- the attempt succeeded
      rw [hoperation, Prod.mk.injEq] at hop
      obtain ⟨-, rfl⟩ := hop
      exact hheads
    all_goals
      have hkept := nextBackOff_pool g₁
      rw [hb] at hkept
      rw [hoperation, Prod.mk.injEq] at hop
      obtain ⟨herr, rfl⟩ := hop
      dsimp only at hkept
    · -- `Stop`: the backoff leaves the pool alone
      exact (congrArg Pool.heads hkept).le.trans hheads
    · -- the context was done
      exact (congrArg Pool.heads hkept).le.trans hheads
    · -- a retry: the attempt failed on its nonce, so it left a nonce in the pool
      have hlive := (hb ▸ Core.nextBackOff_keeps _).1
      dsimp only at hlive
      have hnonce : attempt.isNonceError := by
        rw [withContext_done] at hdone
        cases herror : attempt.error <;>
          simp_all [Outcome.isNonceError, Error.isNonceError]
      have hne := nonces_ne_nil_of_nonceError hanswers (hs ▸ hnonce :
        (p.core.signedPost uri content g.world).1.isNonceError)
      simp only [hs] at hne
      have hrest_heads := retryLoop_heads_le hanswers uri content hrest
      simp only [Core.sleep, core, hkept, if_neg hne] at hrest_heads
      exact hrest_heads.trans hheads

end Exclusive

/-- A core that no other task shares, over a CA whose answers carry nonces, draws
at most one `HEAD` request from a call, and none when the pool held a nonce. -/
theorem retrievablePost_heads_le_one (p : Pooled) (hexclusive : ∀ s, (p.others s).1 = [])
    (hanswers : ∀ url body bodyType s, ∃ nonce,
      Nonces.getFromResponse p.replayNonce (p.post url body bodyType s).1.response = .ok nonce)
    (uri : String) (content : List UInt8) (fuel : Nat) (w : PoolWorld p.σ) (run : p.core.PostRun)
    (hrun : p.core.retrievablePost uri content fuel w = some run) :
    run.world.pool.heads ≤ w.pool.heads + if w.pool.manager.nonces = [] then 1 else 0 := by
  obtain ⟨r, hr, rfl⟩ := Core.retrievablePost_eq_some hrun
  exact retryLoop_heads_le hexclusive hanswers uri content hr

/-- A pooled core no other task shares, over a CA that rejects its first request
as `badNonce` and accepts the next, each answer carrying a nonce, and answers a
`HEAD` with the nonce `fresh`; the state counts the answers. -/
def rejectingOncePooled : Pooled where
  σ := Nat
  Response := String
  Sig := Unit
  replayNonce := id
  head _ s := (.ok (some "fresh"), s)
  post _ _ _ s :=
    (if s = 0 then ⟨some "retry", some (.nonceError ("badNonce"))⟩ else ⟨some "next", none⟩,
      s + 1)
  newSigner := .ok ()
  sign _ _ _ := .ok ()
  fullSerialize _ := "jws"
  others s := ([], s)
  runtime := ⟨fun _ => 0, fun s => (0, s), fun _ s => s⟩

/-- A core fresh from `New`, with an empty pool, against a CA that rejects its
first nonce: the first attempt makes the one `HEAD` request the bound allows,
and the retry is signed under the nonce the rejection brought back. -/
theorem retrievablePost_heads_le_one_retried :
    (∀ s, (rejectingOncePooled.others s).1 = []) ∧
      (∀ url body bodyType s, ∃ nonce, Nonces.getFromResponse rejectingOncePooled.replayNonce
        (rejectingOncePooled.post url body bodyType s).1.response = .ok nonce) ∧
      ∃ run, rejectingOncePooled.core.retrievablePost ("new-order") [] 2
          (⟨Pool.start (newManager ("new-nonce")), 0⟩ : PoolWorld Nat) = some run ∧
        run.attempts.length = 2 ∧ run.world.pool.heads = 1 ∧
        run.world.pool.heads ≤ (Pool.start (newManager ("new-nonce"))).heads +
          if (newManager ("new-nonce")).nonces = [] then 1 else 0 := by
  have hexclusive : ∀ s, (rejectingOncePooled.others s).1 = [] := fun _ => rfl
  have hanswers : ∀ url body bodyType s, ∃ nonce, Nonces.getFromResponse
      rejectingOncePooled.replayNonce (rejectingOncePooled.post url body bodyType s).1.response =
        .ok nonce := by
    intro _ _ _ s
    change Nat at s
    by_cases hs : s = 0 <;> simp [rejectingOncePooled, hs, Nonces.getFromResponse]
  refine ⟨hexclusive, hanswers, _, rfl, rfl, rfl, ?_⟩
  exact retrievablePost_heads_le_one rejectingOncePooled hexclusive hanswers ("new-order") [] 2
    ⟨Pool.start (newManager ("new-nonce")), (0 : ℕ)⟩ _ rfl

end Pooled

end Lego.Acme
