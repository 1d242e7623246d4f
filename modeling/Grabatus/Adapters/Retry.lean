import Grabatus.Ports.Ports

/-!
# `with_retry`

Model of `adapters/retry.py`. The retry policy of the adapters.

Out of scope: the sleeps between the attempts, and the arguments of `with_retry` that no caller
passes.
-/

namespace Grabatus

open Grabatus.Lib

/-- `with_retry(retry_on=...)`: three attempts, then the last exception comes out. -/
def withRetry {σ α : Type} (retryOn : List ExceptionClass) (op : PyOp σ α) : PyOp σ α :=
  Op.retry (PyException.isA retryOn) 2 op

/-- `_RETRIABLE_GCS_ERRORS`, the same list in the three Google adapters. -/
def retriableGoogleErrors : List ExceptionClass :=
  [.googleServiceUnavailable, .googleInternalServerError, .googleGatewayTimeout,
    .googleDeadlineExceeded, .googleTooManyRequests, .connectionError]

end Grabatus
