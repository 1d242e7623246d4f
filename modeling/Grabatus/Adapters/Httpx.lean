import Grabatus.Adapters.Retry
import Grabatus.Contract.Pydantic

/-!
# The HTTP client

Model of `httpx.Client` as `adapters/storage_http.py`, `adapters/webhook.py` and
`adapters/http_compute_backend.py` use it. What the adapters use of `httpx`: a client that sends
one request and returns a response or raises, and the list of the errors they retry.

Out of scope: connections, redirects and streaming; a request is one call, with any answer.
-/

namespace Grabatus

open Grabatus.Lib Grabatus.Python

/-- `httpx.Response`: `json` is what `response.json()` returns or raises. -/
structure HttpResponse where
  statusCode : Int
  content : Bytes
  text : String
  json : Except PyException Json

/-- `200 <= response.status_code < 300`. -/
def HttpResponse.isSuccess (response : HttpResponse) : Bool :=
  decide (200 ≤ response.statusCode ∧ response.statusCode < 300)

/-- Request headers. -/
abbrev Headers : Type := Dict String String

/-- `httpx.Client`: a GET, and a POST of a JSON body, within a timeout in seconds. -/
structure HttpClient (σ : Type) where
  get : String → Headers → Double → PyOp σ HttpResponse
  post : String → Json → Headers → Double → PyOp σ HttpResponse

/-- `_RETRIABLE_HTTP_ERRORS`, the same list in the three HTTP adapters. -/
def retriableHttpErrors : List ExceptionClass :=
  [.httpxTimeoutException, .httpxConnectError, .httpxRemoteProtocolError]

/-- `except _RETRIABLE_HTTP_ERRORS: raise`, then `except httpx.HTTPError as exc: raise Kind(...)`,
around a request. -/
def httpError (kind : ErrorKind) (text : String) (exc : PyException) : PyException :=
  if exc.isA retriableHttpErrors then exc
  else if exc.isA [.httpxHttpError] then serviceError kind (text ++ exc.str)
  else exc

/-- A service error is none of the classes an `except` clause of an adapter names. -/
theorem isA_of_isServiceError {exc : PyException} (h : exc.isServiceError = true)
    (caught : List ExceptionClass) : exc.isA caught = false := by
  cases exc with
  | service e => rfl
  | raised cls message => exact absurd h nofun

/-- Translating the errors of a request leaves the retriable ones, and makes no other retriable. -/
theorem isA_httpError (kind : ErrorKind) (text : String) (exc : PyException) :
    (httpError kind text exc).isA retriableHttpErrors = exc.isA retriableHttpErrors := by
  unfold httpError
  split
  · rfl
  · rename_i hret
    split
    · rw [Bool.eq_false_iff.mpr hret]
      rfl
    · rfl

end Grabatus
