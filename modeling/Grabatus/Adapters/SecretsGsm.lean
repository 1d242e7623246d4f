import Grabatus.Adapters.Retry

/-!
# `GoogleSecretManagerAdapter`

Model of `adapters/secrets_gsm.py`. The secrets adapter: a reference is a version of a secret of
one project, and its bytes are the token.

Out of scope: Secret Manager, whose client is any operation on the world.
-/

namespace Grabatus

open Grabatus.Lib Grabatus.Python

variable {σ : Type}

/-- `GoogleSecretManagerAdapter`; `accessSecretVersion` is the client's call, by full name, and
returns `response.payload.data`. -/
structure GoogleSecretManagerAdapter (σ : Type) where
  projectId : String
  accessSecretVersion : String → PyOp σ Bytes

namespace GoogleSecretManagerAdapter

/-- The full name of a version. -/
def versionName (a : GoogleSecretManagerAdapter σ) (ref : SecretRef) : String :=
  "projects/" ++ a.projectId ++ "/secrets/" ++ ref.name.val ++ "/versions/" ++ ref.version.val

variable [UnicodeData]

/-- The `except` clauses of `resolve`. -/
def accessError (ref : SecretRef) (exc : PyException) : PyException :=
  if exc.isA retriableGoogleErrors then exc
  else if exc.isA [.googleNotFound] then
    serviceError .credentialResolutionError
      ("Secret Manager has no version for secret_ref=" ++ pyRepr ref.toUri)
  else if exc.isA [.googleApiError] then
    serviceError .credentialResolutionError
      ("Secret Manager access failed for secret_ref=" ++ pyRepr ref.toUri ++ ": " ++ exc.str)
  else exc

/-- One attempt of `resolve`. -/
def access (a : GoogleSecretManagerAdapter σ) (ref : SecretRef) : PyOp σ Credentials := do
  let data ← Op.mapError (accessError ref) (a.accessSecretVersion (a.versionName ref))
  return { token := data, tokenType := "secret" }

/-- `GoogleSecretManagerAdapter.resolve`. -/
def resolve (a : GoogleSecretManagerAdapter σ) (ref : SecretRef) : PyOp σ Credentials :=
  withRetry retriableGoogleErrors (a.access ref)

/-- The adapter as a secrets port. -/
def port (a : GoogleSecretManagerAdapter σ) : SecretsPort σ where
  resolve := a.resolve

end GoogleSecretManagerAdapter

end Grabatus
