import Grabatus.Lib.Retry
import Grabatus.Lib.Traced
import Grabatus.Ports.Values

/-!
# Ports

Model of the protocols of `ports/`. The interfaces the runners talk through. A port is a record of
operations on a world `σ`, the state of everything on the far side of the ports: an operation
returns a value of its declared type or raises any exception, and leaves a world that decides what
the next call gives.

A run records each call with its reply as an `Event`. The effectful ones (`Event.effect?`) are
those the platform can see: secrets, storage, the backend and the webhook.

Out of scope: `ObservabilityPort.log`, which returns `None` and whose arguments nothing reads,
`ClockPort.monotonic`, and the exception that the exit of a span is told of.
-/

namespace Grabatus

open Grabatus.Lib Grabatus.Python

/-- A call: it returns, or raises a Python exception. -/
abbrev PyOp (σ α : Type) : Type := Op σ PyException α

/-- `MessagePort`. -/
structure MessagePort (σ : Type) where
  decode : RawMessage → PyOp σ JsonObject

/-- `UriAuthorizationPort`. -/
structure UriAuthorizationPort (σ : Type) where
  authorize : String → Identity → PyOp σ Unit

/-- `SecretsPort`. -/
structure SecretsPort (σ : Type) where
  resolve : SecretRef → PyOp σ Credentials

/-- `StoragePort`. -/
structure StoragePort (σ : Type) where
  read : InputSpec → Credentials → PyOp σ Bytes
  write : OutputSpec → Bytes → Credentials → PyOp σ WriteReceipt

/-- `ClockPort`. -/
structure ClockPort (σ : Type) where
  now : PyOp σ Datetime

/-- `ComputeBackendPort`. -/
structure ComputeBackendPort (σ P : Type) where
  requiredInputRoles : Finset String
  optionalInputRoles : Finset String
  outputRoles : Finset String
  run : LoadedInputs → P → ComputeContext → PyOp σ ComputeResult

/-- `WebhookPort`. -/
structure WebhookPort (σ : Type) where
  notify : Callback → JsonObject → PyOp σ WebhookAck

/-- `JobDispatcherPort`. -/
structure JobDispatcherPort (σ : Type) where
  dispatch : String → Bytes → UUID → PyOp σ DispatchedJob

/-- `ObservabilityPort`: entering and leaving a span, and a metric. -/
structure ObservabilityPort (σ : Type) where
  enter : String → List (String × String) → PyOp σ Unit
  exit : String → PyOp σ Unit
  metric : String → Double → List (String × String) → PyOp σ Unit

/-! ## Events -/

/-- A call to a port, with its reply. -/
inductive Event (P : Type) where
  | decode (raw : RawMessage) (reply : Except PyException JsonObject)
  | authorize (uri : String) (identity : Identity) (reply : Except PyException Unit)
  | resolve (ref : SecretRef) (reply : Except PyException Credentials)
  | read (spec : InputSpec) (credentials : Credentials) (reply : Except PyException Bytes)
  | now (reply : Except PyException Datetime)
  | run (inputs : LoadedInputs) (parameters : P) (context : ComputeContext)
      (reply : Except PyException ComputeResult)
  | write (spec : OutputSpec) (payload : Bytes) (credentials : Credentials)
      (reply : Except PyException WriteReceipt)
  | notify (callback : Callback) (payload : JsonObject) (reply : Except PyException WebhookAck)
  | dispatch (jobName : String) (payload : Bytes) (requestId : UUID)
      (reply : Except PyException DispatchedJob)
  | enter (span : String) (attrs : List (String × String)) (reply : Except PyException Unit)
  | exit (span : String) (reply : Except PyException Unit)
  | metric (name : String) (value : Double) (tags : List (String × String))
      (reply : Except PyException Unit)

/-- The effectful calls, without their replies. -/
inductive Effect where
  | resolve (ref : SecretRef)
  | read (spec : InputSpec)
  | run
  | write (spec : OutputSpec)
  | notify
  deriving DecidableEq

/-- The effect a call has. -/
def Event.effect? {P : Type} : Event P → Option Effect
  | .resolve ref _ => some (.resolve ref)
  | .read spec _ _ => some (.read spec)
  | .run _ _ _ _ => some .run
  | .write spec _ _ _ => some (.write spec)
  | .notify _ _ _ => some .notify
  | _ => none

/-- The stretch of a run a call belongs to. -/
inductive Stage where
  | receive
  | check
  | prepare
  | compute
  | publish
  | dispatch
  | observe
  deriving DecidableEq

/-- The stretch of a call. -/
def Event.stage {P : Type} : Event P → Stage
  | .decode _ _ => .receive
  | .authorize _ _ _ => .check
  | .resolve _ _ | .read _ _ _ | .now _ => .prepare
  | .run _ _ _ _ => .compute
  | .write _ _ _ _ | .notify _ _ _ => .publish
  | .dispatch _ _ _ _ => .dispatch
  | .enter _ _ _ | .exit _ _ | .metric _ _ _ _ => .observe

/-- No call of these stretches has an effect the platform can see. -/
theorem Event.effect?_eq_none {P : Type} {e : Event P}
    (h : e.stage ∈ [.receive, .check, .dispatch, .observe]) : e.effect? = none := by
  cases e <;> first | rfl | exact absurd h (by simp [Event.stage])

theorem Event.effect?_of_publish {P : Type} {e : Event P} (h : e.stage = .publish) :
    e.effect? ≠ none := by
  cases e <;> first | exact Option.some_ne_none _ | exact absurd h nofun

/-- A step over the ports: it may raise, and records its calls. -/
abbrev Step (σ P α : Type) : Type := Traced (Event P) σ PyException α

end Grabatus
