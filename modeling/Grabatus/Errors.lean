import Mathlib.Logic.Basic

/-!
# The exception hierarchy

Model of `errors/` and of the exceptions of other libraries that the package's `except` clauses
name. `GrabatusServiceError` and its subclasses, one constructor each, with their `error_code`;
and the other exceptions the code meets: those it raises itself (`ValueError`, `KeyError`), those
of the interpreter, and those of the client libraries its `except` clauses name. `isA` is the
subclass test of an `except` clause; `bind_eq_ok` and `bind_eq_error` take a sequence of calls
that may raise apart.

Out of scope: `http_status`, `retriable` and the keyword context of an error, which only the HTTP
front and the log lines read, and an exception's cause and traceback.
-/

namespace Grabatus

/-- The concrete subclasses of `GrabatusServiceError`; `custom` is one a service declares. -/
inductive ErrorKind where
  | computeError
  | computeTimeoutError
  | missingReadoutError
  | invalidReadoutError
  | unknownOutputRoleError
  | readoutMismatchError
  | contractError
  | malformedMessageError
  | invalidContractError
  | unsupportedProtocolVersionError
  | unknownServiceError
  | storageError
  | inputNotFoundError
  | inputReadError
  | outputWriteError
  | formatParsingError
  | securityError
  | unsupportedSchemeError
  | unauthorizedUriError
  | blockedHostError
  | credentialResolutionError
  | webhookError
  | webhookAuthError
  | custom (errorCode : String)
  deriving DecidableEq

/-- `error_code`. -/
def ErrorKind.errorCode : ErrorKind → String
  | .computeError => "compute_failed"
  | .computeTimeoutError => "compute_timeout"
  | .missingReadoutError => "missing_model_readout"
  | .invalidReadoutError => "invalid_model_readout"
  | .unknownOutputRoleError => "unknown_output_role"
  | .readoutMismatchError => "readout_identity_mismatch"
  | .contractError => "contract_error"
  | .malformedMessageError => "malformed_message"
  | .invalidContractError => "invalid_contract"
  | .unsupportedProtocolVersionError => "unsupported_protocol_version"
  | .unknownServiceError => "unknown_service"
  | .storageError => "storage_error"
  | .inputNotFoundError => "input_not_found"
  | .inputReadError => "input_read_failed"
  | .outputWriteError => "output_write_failed"
  | .formatParsingError => "format_parsing_failed"
  | .securityError => "security_error"
  | .unsupportedSchemeError => "unsupported_scheme"
  | .unauthorizedUriError => "unauthorized_uri"
  | .blockedHostError => "blocked_host"
  | .credentialResolutionError => "credential_resolution_failed"
  | .webhookError => "webhook_failed"
  | .webhookAuthError => "webhook_auth_failed"
  | .custom code => code

/-- A `GrabatusServiceError`: its class and `str(error)`. -/
structure GrabatusServiceError where
  kind : ErrorKind
  message : String
  deriving DecidableEq

/-- `error.error_code`. -/
def GrabatusServiceError.errorCode (e : GrabatusServiceError) : String := e.kind.errorCode

/-- The other exception classes the code raises, catches or lets through. The `google…` and
`httpx…` ones are those the adapters name; `googleApiError` and `httpxHttpError` stand for every
further subclass of `GoogleAPIError` and `httpx.HTTPError`, `other` for a class none of the
`except` clauses covers. -/
inductive ExceptionClass where
  | keyError
  | valueError
  | unicodeDecodeError
  | jsonDecodeError
  | binasciiError
  | recursionError
  | eofError
  | osError
  | connectionError
  | zlibError
  | zstdError
  | googleServiceUnavailable
  | googleInternalServerError
  | googleGatewayTimeout
  | googleDeadlineExceeded
  | googleTooManyRequests
  | googleNotFound
  | googleApiError
  | httpxTimeoutException
  | httpxConnectError
  | httpxRemoteProtocolError
  | httpxHttpError
  | other (name : String)
  deriving DecidableEq

/-- What a Python call raises. -/
inductive PyException where
  | service (e : GrabatusServiceError)
  | raised (cls : ExceptionClass) (message : String)
  deriving DecidableEq

/-- `raise Kind(message)`. -/
def serviceError (kind : ErrorKind) (message : String) : PyException := .service ⟨kind, message⟩

/-- `raise ValueError(message)`. -/
def valueError (message : String) : PyException := .raised .valueError message

/-- `except GrabatusServiceError`. -/
def PyException.isServiceError : PyException → Bool
  | .service _ => true
  | .raised _ _ => false

/-- `str(exc)`. -/
def PyException.str : PyException → String
  | .service e => e.message
  | .raised _ message => message

/-- The classes an exception class derives from, itself included, among those named here. -/
def ExceptionClass.ancestors : ExceptionClass → List ExceptionClass
  | .unicodeDecodeError => [.unicodeDecodeError, .valueError]
  | .jsonDecodeError => [.jsonDecodeError, .valueError]
  | .binasciiError => [.binasciiError, .valueError]
  | .connectionError => [.connectionError, .osError]
  | .googleServiceUnavailable => [.googleServiceUnavailable, .googleApiError]
  | .googleInternalServerError => [.googleInternalServerError, .googleApiError]
  | .googleGatewayTimeout => [.googleGatewayTimeout, .googleApiError]
  | .googleDeadlineExceeded =>
    [.googleDeadlineExceeded, .googleGatewayTimeout, .googleApiError]
  | .googleTooManyRequests => [.googleTooManyRequests, .googleApiError]
  | .googleNotFound => [.googleNotFound, .googleApiError]
  | .httpxTimeoutException => [.httpxTimeoutException, .httpxHttpError]
  | .httpxConnectError => [.httpxConnectError, .httpxHttpError]
  | .httpxRemoteProtocolError => [.httpxRemoteProtocolError, .httpxHttpError]
  | cls => [cls]

/-- `except (C1, C2, ...)` catches an exception of class `cls`. -/
def ExceptionClass.isA (cls : ExceptionClass) (caught : List ExceptionClass) : Bool :=
  cls.ancestors.any (· ∈ caught)

/-- `except (C1, C2, ...)` over any exception. -/
def PyException.isA (caught : List ExceptionClass) : PyException → Bool
  | .service _ => false
  | .raised cls _ => cls.isA caught

/-! ## Sequencing -/

section

variable {ε α β : Type} {x : Except ε α} {f : α → Except ε β}

theorem bind_eq_ok {b : β} : x >>= f = .ok b ↔ ∃ a, x = .ok a ∧ f a = .ok b := by
  rcases x with e | a
  · exact ⟨fun h => absurd h nofun, fun ⟨a, h, _⟩ => absurd h nofun⟩
  · exact ⟨fun h => ⟨a, rfl, h⟩, fun ⟨_, ha, h⟩ => Except.ok.inj ha ▸ h⟩

theorem bind_eq_error {e : ε} :
    x >>= f = .error e ↔ x = .error e ∨ ∃ a, x = .ok a ∧ f a = .error e := by
  rcases x with e' | a
  · refine ⟨fun h => .inl (congrArg Except.error (Except.error.inj h)), ?_⟩
    rintro (h | ⟨a, h, -⟩)
    · exact congrArg Except.error (Except.error.inj h)
    · exact absurd h nofun
  · refine ⟨fun h => .inr ⟨a, rfl, h⟩, ?_⟩
    rintro (h | ⟨a', ha, h⟩)
    · exact absurd h nofun
    · exact Except.ok.inj ha ▸ h

end

end Grabatus
