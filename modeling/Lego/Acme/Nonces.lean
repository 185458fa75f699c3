import Mathlib.Data.List.Nodup

/-!
# The nonce pool

`nonces.Manager` keeps the nonces the CA has sent that no request has used yet.
`signedPost` pushes back the nonce of every response, success or failure, and
the signer takes one nonce for each request through `Nonce`: the most recently
pushed nonce if the pool has one, and otherwise a fresh one from a `HEAD`
request to the nonce URL the manager was made with. `api.go` imports the package,
`acme/api/internal/nonces`, and uses `NewManager`, `Push` and `GetFromResponse`
(the signer uses `Nonce`); each definition of it here is modelled from the spec's
contract of the Nonce Manager, and follows the package where the contract leaves
a choice open: which nonce `Pop` takes, and the texts of the errors.

The manager guards its pool with a mutex, so the requests of concurrent calls
reach it one at a time. `Pop` and `Push` are each one step; the `HEAD` of a
`Nonce` whose `Pop` found the pool empty runs outside the lock and does not read
the pool. Every interleaving of concurrent calls is therefore one list of such
requests, whatever the CA answers. Over every such list the pool conserves
nonces: those handed out and those still pooled are, up to order, those it
started with and those the CA sent. So when the CA never sends a nonce twice,
no nonce is handed out twice, and none is both handed out and still pooled.
-/

namespace Lego.Acme.Nonces

/-- `nonces.Manager`: the URL fresh nonces are fetched from, and the pool of
unused nonces, the most recently pushed last. Modelled from the spec: "an
unbounded set of unused, single-use opaque tokens", in a "mutex- or
channel-guarded pool". -/
structure Manager where
  nonceURL : String
  nonces : List String
  deriving DecidableEq

/-- `NewManager`: an empty pool for the given nonce URL. Modelled from the spec:
the fresh-nonce fetch goes "against the CA's dedicated endpoint". -/
def newManager (nonceURL : String) : Manager := ⟨nonceURL, []⟩

namespace Manager

/-- `Pop`: the most recently pushed nonce, taken out of the pool, if there is
one. Modelled from the spec: it "returns a pooled nonce if available", and the
"order of consumption is irrelevant"; the most recent one is the package's
choice. -/
def pop (m : Manager) : Option String × Manager :=
  match m.nonces.getLast? with
  | none => (none, m)
  | some nonce => (some nonce, { m with nonces := m.nonces.dropLast })

/-- `Push`. Modelled from the spec: "`Push(nonce)`: inserts a token into the
pool". -/
def push (nonce : String) (m : Manager) : Manager :=
  { m with nonces := m.nonces ++ [nonce] }

/-- `Pop` on an empty pool changes nothing; otherwise it takes the last nonce. -/
theorem pop_cases (m : Manager) :
    (m.nonces = [] ∧ m.pop = (none, m)) ∨
      ∃ rest last, m.nonces = rest ++ [last] ∧
        m.pop = (some last, { m with nonces := rest }) := by
  rcases List.eq_nil_or_concat m.nonces with hnil | ⟨rest, last, hconcat⟩
  · exact .inl ⟨hnil, by simp [pop, hnil]⟩
  · rw [List.concat_eq_append] at hconcat
    exact .inr ⟨rest, last, hconcat, by simp [pop, hconcat]⟩

end Manager

/-- `GetFromResponse`: the `Replay-Nonce` header of a response. `Header.Get`
reads an absent header as the empty string. Modelled from the spec: "responses
carry a fresh single-use freshness token in a dedicated header on every
response"; the texts of the errors are the package's. -/
def getFromResponse {Response : Type} (replayNonce : Response → String) :
    Option Response → Except String String
  | none => .error ("nil response")
  | some resp =>
    if replayNonce resp = "" then .error ("server did not respond with a proper nonce header")
    else .ok (replayNonce resp)

/-- The end of `getNonce`: the nonce that the answer to its `HEAD` request
gives, or the error it returns. Modelled from the spec: `Pop` "fails only if
that fetch fails (network/CA error)". -/
def nonceFromHead {Response : Type} (replayNonce : Response → String) :
    Except String (Option Response) → Except String String
  | .error err => .error ("failed to get nonce from HTTP HEAD -> " ++ err)
  | .ok resp => getFromResponse replayNonce resp

section Fetch

variable {σ Response : Type} (replayNonce : Response → String)
  (head : String → σ → Except String (Option Response) × σ)

/-- `getNonce`: a `HEAD` request to the nonce URL, answered by `head` from the
world, and the nonce of its answer. Modelled from the spec: "a fresh-nonce
fetch against the CA's dedicated endpoint". -/
def Manager.getNonce (m : Manager) (s : σ) : Except String String × σ :=
  let (answer, s) := head m.nonceURL s
  (nonceFromHead replayNonce answer, s)

/-- `Nonce`, the signer's nonce source: `Pop`, and `getNonce` when the pool was
empty. Modelled from the spec: "returns a pooled nonce if available, else
performs a fresh-nonce fetch". -/
def Manager.nonce (m : Manager) (s : σ) : Except String String × Manager × σ :=
  match m.pop with
  | (some nonce, m) => (.ok nonce, m, s)
  | (none, m) =>
    let (fetched, s) := m.getNonce replayNonce head s
    (fetched, m, s)

end Fetch

/-! ## The pool with its records -/

/-- The manager with ghost records of what passed through it: the nonces handed
to signers, in order; the nonces the CA sent in, pushed back from a response or
fetched by a `HEAD`; and the number of `HEAD` requests made. -/
structure Pool where
  manager : Manager
  handedOut : List String
  issued : List String
  heads : Nat

/-- A manager, with its records started empty. -/
def Pool.start (m : Manager) : Pool := ⟨m, [], [], 0⟩

namespace Pool

/-- `Push`, recording the nonce as sent by the CA. -/
def push (nonce : String) (p : Pool) : Pool :=
  { p with manager := p.manager.push nonce, issued := p.issued ++ [nonce] }

/-- The locked `Pop` of a `Nonce`, recording the nonce it hands out. -/
def pop (p : Pool) : Option String × Pool :=
  let (popped, m) := p.manager.pop
  (popped, { p with manager := m, handedOut := p.handedOut ++ popped.toList })

/-- The unlocked `HEAD` of a `Nonce`, given the answer it got: the nonce it gives
is handed out at once and recorded as sent by the CA. -/
def fetch {Response : Type} (replayNonce : Response → String)
    (answer : Except String (Option Response)) (p : Pool) : Except String String × Pool :=
  let fetched := nonceFromHead replayNonce answer
  (fetched,
    { p with
      handedOut := p.handedOut ++ fetched.toOption.toList
      issued := p.issued ++ fetched.toOption.toList
      heads := p.heads + 1 })

/-- `Nonce` on the recorded pool: `Pop`, and a `HEAD` answered by `head` from the
world when the pool was empty. -/
def nonce {σ Response : Type} (replayNonce : Response → String)
    (head : String → σ → Except String (Option Response) × σ) (p : Pool) (s : σ) :
    Except String String × Pool × σ :=
  match p.pop with
  | (some nonce, p) => (.ok nonce, p, s)
  | (none, p) =>
    let (answer, s) := head p.manager.nonceURL s
    let (fetched, p) := p.fetch replayNonce answer
    (fetched, p, s)

@[simp]
theorem push_manager (nonce : String) (p : Pool) :
    (p.push nonce).manager = p.manager.push nonce := rfl

@[simp]
theorem push_handedOut (nonce : String) (p : Pool) :
    (p.push nonce).handedOut = p.handedOut := rfl

@[simp]
theorem push_heads (nonce : String) (p : Pool) : (p.push nonce).heads = p.heads := rfl

section Nonce

variable {σ Response : Type} {replayNonce : Response → String}
  {head : String → σ → Except String (Option Response) × σ}

/-- The records only observe: `Nonce` on the recorded pool answers as the
manager's own `Nonce`, leaves the manager as it does, and moves the world as it
does. -/
theorem nonce_observes (p : Pool) (s : σ) :
    (p.nonce replayNonce head s).1 = (p.manager.nonce replayNonce head s).1 ∧
      (p.nonce replayNonce head s).2.1.manager = (p.manager.nonce replayNonce head s).2.1 ∧
      (p.nonce replayNonce head s).2.2 = (p.manager.nonce replayNonce head s).2.2 := by
  rcases p.manager.pop_cases with ⟨-, hpop⟩ | ⟨rest, last, -, hpop⟩
  · simp [Pool.nonce, pop, fetch, Manager.nonce, Manager.getNonce, hpop]
  · simp [Pool.nonce, pop, Manager.nonce, hpop]

/-- One `Nonce` hands out exactly the nonce it answers with, and makes a `HEAD`
request exactly when the pool was empty. -/
theorem nonce_records (p : Pool) (s : σ) :
    (p.nonce replayNonce head s).2.1.handedOut =
        p.handedOut ++ (p.nonce replayNonce head s).1.toOption.toList ∧
      (p.nonce replayNonce head s).2.1.heads =
        p.heads + if p.manager.nonces = [] then 1 else 0 := by
  rcases p.manager.pop_cases with ⟨hnil, hpop⟩ | ⟨rest, last, hconcat, hpop⟩
  · simp [Pool.nonce, pop, fetch, hpop, hnil]
  · simp [Pool.nonce, pop, hpop, hconcat, Except.toOption]

/-- `Nonce` hands out the nonce on top of the pool, when there is one. -/
theorem nonce_of_getLast? {p : Pool} {last : String}
    (h : p.manager.nonces.getLast? = some last) (s : σ) :
    (p.nonce replayNonce head s).1 = .ok last := by
  rcases p.manager.pop_cases with ⟨hnil, -⟩ | ⟨rest, top, hconcat, hpop⟩
  · simp [hnil] at h
  · simp only [hconcat, List.getLast?_concat, Option.some.injEq] at h
    simp [Pool.nonce, pop, hpop, h]

end Nonce

end Pool

/-! ## Requests in any interleaving -/

/-- A request reaching the manager: a `Push` of a nonce from a response, the
locked `Pop` of a `Nonce`, or the unlocked `HEAD` of a `Nonce`, with the answer
the CA gave it. -/
inductive Request (Response : Type) where
  | push (nonce : String)
  | pop
  | fetch (answer : Except String (Option Response))

/-- Serve one request. -/
def Pool.serveOne {Response : Type} (replayNonce : Response → String) (p : Pool) :
    Request Response → Pool
  | .push nonce => p.push nonce
  | .pop => p.pop.2
  | .fetch answer => (p.fetch replayNonce answer).2

/-- Serve the requests of an interleaving, in order. -/
def Pool.serve {Response : Type} (replayNonce : Response → String) (p : Pool)
    (requests : List (Request Response)) : Pool :=
  requests.foldl (Pool.serveOne replayNonce) p

theorem Pool.serve_append {Response : Type} (replayNonce : Response → String) (p : Pool)
    (requests requests' : List (Request Response)) :
    p.serve replayNonce (requests ++ requests') =
      (p.serve replayNonce requests).serve replayNonce requests' :=
  List.foldl_append _ _ _ _

/-- Serving requests only adds to the record of nonces handed out. -/
theorem Pool.handedOut_prefix_serve {Response : Type} (replayNonce : Response → String)
    (p : Pool) (requests : List (Request Response)) :
    p.handedOut <+: (p.serve replayNonce requests).handedOut := by
  induction requests generalizing p with
  | nil => exact List.prefix_refl _
  | cons request rest ih =>
    refine List.IsPrefix.trans ?_ (ih (p.serveOne replayNonce request))
    cases request <;> simp [serveOne, push, pop, fetch]

/-- `Nonce` on the recorded pool is a `Pop`, followed by a `HEAD` when the pool
was empty: the requests of one signer. -/
theorem Pool.nonce_eq_serve {σ Response : Type} (replayNonce : Response → String)
    (head : String → σ → Except String (Option Response) × σ) (p : Pool) (s : σ) :
    ∃ requests, (p.nonce replayNonce head s).2.1 = p.serve replayNonce requests := by
  rcases hpop : p.pop with ⟨_ | last, p'⟩
  · exact ⟨[.pop, .fetch (head p'.manager.nonceURL s).1],
      by simp [Pool.nonce, hpop, serve, serveOne]⟩
  · exact ⟨[.pop], by simp [Pool.nonce, hpop, serve, serveOne]⟩

/-! ## Conservation -/

/-- The conservation law of a pool that started with the nonces `start`: the
nonces handed out and those still pooled are, up to order, those it started
with and those the CA sent. -/
def Balanced (start : List String) (p : Pool) : Prop :=
  (p.handedOut ++ p.manager.nonces).Perm (start ++ p.issued)

section Balanced

variable {start : List String} {p : Pool}

theorem balanced_start (m : Manager) : Balanced m.nonces (Pool.start m) := by
  simp [Balanced, Pool.start]

theorem Balanced.push (h : Balanced start p) (nonce : String) :
    Balanced start (p.push nonce) := by
  simpa [Balanced, Pool.push, Manager.push, ← List.append_assoc] using h.append_right [nonce]

theorem Balanced.pop (h : Balanced start p) : Balanced start p.pop.2 := by
  rcases p.manager.pop_cases with ⟨-, hpop⟩ | ⟨rest, last, hconcat, hpop⟩
  · simpa [Pool.pop, hpop] using h
  · -- the nonce moves from the end of the pool to the end of the handed-out list
    have hmoved : (p.handedOut ++ [last] ++ rest).Perm (p.handedOut ++ (rest ++ [last])) := by
      rw [List.append_assoc]
      exact List.perm_append_comm.append_left _
    simpa [Balanced, Pool.pop, hpop] using hmoved.trans (hconcat ▸ h)

theorem Balanced.fetch {Response : Type} (h : Balanced start p) (replayNonce : Response → String)
    (answer : Except String (Option Response)) :
    Balanced start (p.fetch replayNonce answer).2 := by
  -- the fetched nonce, if any, is added to both sides
  set fetched := (nonceFromHead replayNonce answer).toOption.toList
  have hmoved : (p.handedOut ++ fetched ++ p.manager.nonces).Perm
      (p.handedOut ++ p.manager.nonces ++ fetched) := by
    rw [List.append_assoc, List.append_assoc]
    exact List.perm_append_comm.append_left _
  simpa [Balanced, Pool.fetch, fetched, ← List.append_assoc] using
    hmoved.trans (h.append_right fetched)

theorem Balanced.serve {Response : Type} (replayNonce : Response → String)
    (requests : List (Request Response)) (h : Balanced start p) :
    Balanced start (p.serve replayNonce requests) := by
  induction requests generalizing p with
  | nil => exact h
  | cons request rest ih =>
    apply ih
    cases request with
    | push nonce => exact h.push nonce
    | pop => exact h.pop
    | fetch answer => exact h.fetch replayNonce answer

theorem Balanced.nonce {σ Response : Type} (h : Balanced start p)
    (replayNonce : Response → String)
    (head : String → σ → Except String (Option Response) × σ) (s : σ) :
    Balanced start (p.nonce replayNonce head s).2.1 := by
  obtain ⟨requests, hserve⟩ := p.nonce_eq_serve replayNonce head s
  exact hserve ▸ h.serve replayNonce requests

/-- Under the law, a CA that never repeats a nonce makes every handed-out nonce
distinct and gone from the pool. -/
theorem Balanced.handedOut_nodup (h : Balanced start p) (hfresh : (start ++ p.issued).Nodup) :
    p.handedOut.Nodup ∧ ∀ nonce ∈ p.handedOut, nonce ∉ p.manager.nonces := by
  have hnodup := h.nodup_iff.2 hfresh
  exact ⟨hnodup.of_append_left, fun nonce hout hin =>
    List.disjoint_of_nodup_append hnodup hout hin⟩

end Balanced

/-- The conservation law over every interleaving, and what it gives when the CA
never repeats a nonce: no nonce is handed out twice, nor both handed out and
still pooled. -/
theorem serve_conserves_nonces {Response : Type} (replayNonce : Response → String)
    (m : Manager) (requests : List (Request Response)) :
    let p := (Pool.start m).serve replayNonce requests
    (p.handedOut ++ p.manager.nonces).Perm (m.nonces ++ p.issued) ∧
      ((m.nonces ++ p.issued).Nodup →
        p.handedOut.Nodup ∧ ∀ nonce ∈ p.handedOut, nonce ∉ p.manager.nonces) :=
  have h := (balanced_start m).serve replayNonce requests
  ⟨h, h.handedOut_nodup⟩

end Lego.Acme.Nonces
