import Lego.Acme.Core

/-!
# Each attempt signs afresh and hands its nonce back

The calls a call of `retrievablePost` makes to the signer, the transport and the
nonce pool, over a whole run with any mix of outcomes. They are one block per
attempt, and each block is: one `SignContent` of the run's own uri and content;
if that signed, one `Post` to the uri, as `application/jose+json`, of this
attempt's signature; then one `Push` of the response's nonce exactly when one
can be read from the response, whatever error the attempt ends with. So no
attempt resends a body an earlier attempt signed, and every nonce the CA hands
out goes back to the pool before the attempt's error is looked at.

`attemptBlock` states a block in the spec's words; the run is shown to be made
of such blocks by an invariant of the retry loop.
-/

namespace Lego.Acme.Core

open Lego.Backoff

variable (a : Core)

/-- The calls of one attempt, as the spec describes them, given what the signer
and the transport answered. -/
def attemptBlock (uri : String) (content : List UInt8) (signed : Except String a.Signature)
    (posted : Outcome a.Response) : List (Call a) :=
  .signContent uri content signed ::
    match signed with
    | .error _ => []
    | .ok signature =>
      .post uri (a.fullSerialize signature) joseJSON posted ::
        ((a.getFromResponse posted.response).map .push).toList

/-- What one attempt returns, given what the signer and the transport answered. -/
def attemptOutcome (signed : Except String a.Signature) (posted : Outcome a.Response) :
    Outcome a.Response :=
  match signed with
  | .error err => ⟨none, some (signFailure err)⟩
  | .ok _ => posted

variable {a}

/-- `signedPost` makes the calls of one block and returns what that block's
answers give. -/
theorem signedPost_block (uri : String) (content : List UInt8) (w : a.World) :
    ∃ signed posted,
      (a.signedPost uri content w).2.2 = a.attemptBlock uri content signed posted ∧
      (a.signedPost uri content w).1 = a.attemptOutcome signed posted := by
  rcases hsigned : a.jws.signContent uri content w with ⟨err | signature, w'⟩
  · exact ⟨.error err, ⟨none, none⟩, by simp [signedPost, hsigned, attemptBlock],
      by simp [signedPost, hsigned, attemptOutcome]⟩
  · set posted := a.doer.post uri (a.fullSerialize signature) joseJSON w'
    refine ⟨.ok signature, posted.1, ?_, ?_⟩ <;>
      cases hnonce : a.getFromResponse posted.1.response <;>
      simp [signedPost, hsigned, hnonce, attemptBlock, attemptOutcome, posted]

/-- The records of a state are blocks: the attempts' results and the calls both
come from one list of signer and transport answers. -/
def RecordsAreBlocks (uri : String) (content : List UInt8) (g : a.RunState) : Prop :=
  ∃ answers : List (Except String a.Signature × Outcome a.Response),
    g.attempts = answers.map (fun x => a.attemptOutcome x.1 x.2) ∧
    g.calls = answers.flatMap (fun x => a.attemptBlock uri content x.1 x.2)

/-- An attempt adds one block to the records. -/
theorem operation_recordsAreBlocks {uri : String} {content : List UInt8} {g : a.RunState}
    (hg : RecordsAreBlocks uri content g) :
    RecordsAreBlocks uri content (a.operation uri content g).2 := by
  obtain ⟨answers, hattempts, hcalls⟩ := hg
  obtain ⟨attempt, world, calls, hsigned, hoperation⟩ := a.operation_spec uri content g
  obtain ⟨signed, posted, hblock, houtcome⟩ := signedPost_block uri content g.world
  simp only [hsigned] at hblock houtcome
  rw [hoperation]
  exact ⟨answers ++ [(signed, posted)], by simp [hattempts, houtcome],
    by simp [hcalls, hblock]⟩

theorem retrievablePost_calls_are_attempt_blocks (a : Core) (uri : String)
    (content : List UInt8) (fuel : Nat) (w : a.World) (run : a.PostRun)
    (hrun : a.retrievablePost uri content fuel w = some run) :
    ∃ answers : List (Except String a.Signature × Outcome a.Response),
      run.attempts = answers.map (fun x => a.attemptOutcome x.1 x.2) ∧
      run.calls = answers.flatMap (fun x => a.attemptBlock uri content x.1 x.2) := by
  obtain ⟨r, hr, rfl⟩ := retrievablePost_eq_some hrun
  refine retry_invariant (RecordsAreBlocks uri content) (fun _ => operation_recordsAreBlocks)
    ?_ ?_ ?_ ⟨[], rfl, rfl⟩ hr
  · -- the backoff, the timer and the reset leave the records alone
    rintro g ⟨answers, hattempts, hcalls⟩
    obtain ⟨-, -, hcalls', hattempts'⟩ := nextBackOff_keeps g
    exact ⟨answers, hattempts'.trans hattempts, hcalls'.trans hcalls⟩
  · exact fun _ _ hg => hg
  · exact fun _ hg => hg

/-- A rejected nonce and a refused retry: two blocks of three calls, the nonce of
each answer pushed back though both attempts failed. -/
theorem retrievablePost_calls_are_attempt_blocks_refused :
    ∃ run, refusingCore.retrievablePost ("new-order") [] 16 ((0, 0) : Nat × Nat) = some run ∧
      run.attempts.length = 2 ∧ run.calls.length = 6 ∧
      ∃ answers : List (Except String Unit × Outcome Unit),
        run.attempts = answers.map (fun x => refusingCore.attemptOutcome x.1 x.2) ∧
        run.calls = answers.flatMap
          (fun x => refusingCore.attemptBlock ("new-order") [] x.1 x.2) := by
  refine ⟨_, rfl, rfl, rfl, ?_⟩
  exact retrievablePost_calls_are_attempt_blocks refusingCore ("new-order") [] 16
    ((0, 0) : Nat × Nat) _ rfl

end Lego.Acme.Core
