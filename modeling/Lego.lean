import Lego.Backoff.Exponential
import Lego.Backoff.Retry
import Lego.Acme.Core
import Lego.Acme.Directory
import Lego.Acme.RetryPolicy
import Lego.Acme.CallTrace
import Lego.Acme.AttemptBound
import Lego.Acme.WaitBudget
import Lego.Acme.NonceRejection
import Lego.Acme.Nonces
import Lego.Acme.PooledCore
