import Grabatus.Python.JsonText
import Grabatus.Runner.Steps

/-!
# `ServiceRunner`

Model of `runner/runner.py` and of `ExecutionResult` (`runner/state.py`). The runner and its three
modes. A branch of the runner raises a `Failure`: the exception, and the `request_id` known when
it was raised. `execute` turns a `GrabatusServiceError` into a result with status `error` and lets
every other exception out.

The body of a branch is written in stretches: `receive` (decode and validate), after which the
`request_id` is known, `check` (roles and URIs), `produce` (from the credentials to the readout
gate) and `publish` (outputs and the webhook), or `dispatch` in receiver mode.

Out of scope: the exception that the exit of a span is told of.
-/

namespace Grabatus

open Grabatus.Lib Grabatus.Python

/-- `RuntimeMode`. -/
inductive RuntimeMode where
  | receiver
  | worker
  | monolith
  | sharedReceiver
  deriving DecidableEq

/-- A mode as the string it is. -/
def RuntimeMode.value : RuntimeMode → String
  | .receiver => "receiver"
  | .worker => "worker"
  | .monolith => "monolith"
  | .sharedReceiver => "shared-receiver"

/-- `Literal["ok", "error"]`. -/
inductive Status where
  | ok
  | error
  deriving DecidableEq

/-- A status as the string it is. -/
def Status.value : Status → String
  | .ok => "ok"
  | .error => "error"

variable [UnicodeData] {σ P : Type}

/-- `ExecutionResult`. -/
structure ExecutionResult (P : Type) where
  requestId : UUID
  status : Status
  contract : Option (BaseServiceContract P)
  receipts : Option WriteReceipts
  error : Option GrabatusServiceError
  metadata : Dict String Json
  webhookAck : Option WebhookAck

/-- An exception, and the `request_id` known when it was raised. -/
structure Failure where
  requestId : Option UUID
  exception : PyException

/-- `ServiceRunner`. -/
structure ServiceRunner (σ P : Type) where
  contractType : ContractType P
  storage : StoragePort σ
  message : MessagePort σ
  webhook : WebhookPort σ
  compute : ComputeBackendPort σ P
  secrets : SecretsPort σ
  authorizer : UriAuthorizationPort σ
  observability : ObservabilityPort σ
  clock : ClockPort σ
  jobDispatcher : JobDispatcherPort σ
  schemeAllowlist : SchemeAllowlist
  mode : RuntimeMode
  workerJobName : Option String

namespace ServiceRunner

/-! ## Roles -/

/-- `_expected_output_roles`: from protocol 1.1 on, the readout is one of them. -/
def expectedOutputRoles (r : ServiceRunner σ P) (contract : BaseServiceContract P) :
    Finset String :=
  if contract.envelope.protocolVersion ≠ readoutProtocolVersion then r.compute.outputRoles
  else insert readoutOutputRole r.compute.outputRoles

/-- `_check_role_compatibility`. -/
def checkRoleCompatibility (r : ServiceRunner σ P) (contract : BaseServiceContract P) :
    Except PyException Unit :=
  let required := r.compute.requiredInputRoles
  let outputsRequired := r.expectedOutputRoles contract
  let declaredInputs := contract.inputRoles.toFinset
  let declaredOutputs := contract.outputRoles.toFinset
  let acceptedInputs := required ∪ r.compute.optionalInputRoles
  let missing := required \ declaredInputs
  let unknown := declaredInputs \ acceptedInputs
  if missing ≠ ∅ then
    .error (serviceError .invalidContractError
      ("contract is missing required input roles " ++ pyReprList (sorted missing) ++
        "; backend requires " ++ pyReprList (sorted required)))
  else if unknown ≠ ∅ then
    .error (serviceError .invalidContractError
      ("contract declares unknown input roles " ++ pyReprList (sorted unknown) ++
        "; backend accepts " ++ pyReprList (sorted acceptedInputs)))
  else if declaredOutputs ≠ outputsRequired then
    .error (serviceError .invalidContractError
      ("contract output roles " ++ pyReprList (sorted declaredOutputs) ++
        " do not match backend OUTPUT_ROLES " ++ pyReprList (sorted outputsRequired)))
  else .ok ()

/-! ## Results -/

omit [UnicodeData] in
/-- `_receipt_to_dict`. -/
def receiptToDict (role : String) (receipt : WriteReceipt) : Json :=
  .obj [("role", .str role), ("uri", .str receipt.uri),
    ("bytes_written", .int receipt.bytesWritten), ("request_id_tag", .str receipt.requestIdTag)]

omit [UnicodeData] in
/-- `_build_success_payload`. -/
def buildSuccessPayload (requestId : UUID) (receipts : WriteReceipts)
    (metadata : Dict String Json) : JsonObject :=
  [("request_id", .str requestId.str), ("status", .str Status.ok.value),
    ("outputs", .arr (receipts.byRole.entries.map fun e => receiptToDict e.1 e.2)),
    ("metadata", .obj metadata.entries)]

omit [UnicodeData] in
/-- `{"error_code": error.error_code, "error_message": str(error)}`. -/
def errorMetadata (error : GrabatusServiceError) : Dict String Json :=
  (Dict.empty.set "error_code" (.str error.errorCode)).set "error_message" (.str error.message)

/-- The result of a run that failed with `error`. -/
def errorResult (requestId : Option UUID) (error : GrabatusServiceError) : ExecutionResult P where
  requestId := requestId.getD UUID.placeholder
  status := .error
  contract := none
  receipts := none
  error := some error
  metadata := errorMetadata error
  webhookAck := none

/-- The tags of the metric `service_runner.errors`. -/
def errorTags (r : ServiceRunner σ P) (error : GrabatusServiceError) : List (String × String) :=
  [("error_code", error.errorCode), ("mode", r.mode.value)]

/-- `_make_error_result`. -/
def makeErrorResult (r : ServiceRunner σ P) (requestId : Option UUID)
    (error : GrabatusServiceError) : Step σ P (ExecutionResult P) := do
  Traced.call (r.observability.metric "service_runner.errors" (.finite 1) (r.errorTags error))
    (.metric "service_runner.errors" (.finite 1) (r.errorTags error))
  return errorResult requestId error

/-- `except GrabatusServiceError as exc`. -/
def exceptServiceError (r : ServiceRunner σ P) (failure : Failure) :
    Step σ P (ExecutionResult P) :=
  match failure.exception with
  | .service error => r.makeErrorResult failure.requestId error
  | .raised cls message => Traced.raise (.raised cls message)

/-! ## The pipeline -/

variable [Pydantic]

/-- Decode and validate; the `request_id` is not known yet. -/
def receive (r : ServiceRunner σ P) (raw : RawMessage) : Step σ P (BaseServiceContract P) := do
  let payload ← Steps.decode raw r.message
  Traced.lift (Steps.validate payload r.contractType)

omit [Pydantic] in
/-- The role check and the URI policies. -/
def check (r : ServiceRunner σ P) (contract : BaseServiceContract P) : Step σ P Unit := do
  Traced.lift (r.checkRoleCompatibility contract)
  Steps.authorize contract r.authorizer r.schemeAllowlist

/-- What the backend needs, and the credentials for what follows it. -/
structure Prepared where
  credentials : CredentialBundle
  inputs : LoadedInputs
  context : ComputeContext

omit [Pydantic] in
/-- Credentials, inputs and the context of the run. -/
def prepare (r : ServiceRunner σ P) (contract : BaseServiceContract P) : Step σ P Prepared := do
  let credentials ← Steps.resolveCredentials contract r.secrets
  let inputs ← Steps.loadInputs contract credentials r.storage
  let context ← Steps.makeComputeContext contract r.clock
  return ⟨credentials, inputs, context⟩

/-- A result the readout gate let through. -/
structure Produced where
  credentials : CredentialBundle
  result : ComputeResult

/-- The backend and the readout gate. -/
def produce (r : ServiceRunner σ P) (contract : BaseServiceContract P) : Step σ P Produced := do
  let prepared ← r.prepare contract
  let result ← Steps.runCompute contract prepared.inputs r.compute prepared.context
  let _ ← Traced.lift (Steps.validateReadout result prepared.context)
  return ⟨prepared.credentials, result⟩

/-- Outputs and the webhook. -/
def publish (r : ServiceRunner σ P) (contract : BaseServiceContract P) (produced : Produced) :
    Step σ P (ExecutionResult P) := do
  let requestId := contract.envelope.requestId
  let receipts ← Steps.saveOutputs contract produced.credentials produced.result r.storage
  let payload := buildSuccessPayload requestId receipts produced.result.metadata
  let ack ← Steps.notifyWebhook contract.callback payload r.webhook
  return {
    requestId
    status := .ok
    contract := some contract
    receipts := some receipts
    error := none
    metadata := produced.result.metadata
    webhookAck := some ack }

/-- What `_run_full_pipeline` does once the `request_id` is known. -/
def serve (r : ServiceRunner σ P) (contract : BaseServiceContract P) :
    Step σ P (ExecutionResult P) := do
  r.check contract
  let produced ← r.produce contract
  r.publish contract produced

/-- A `try` block: `request_id` is `None` until the contract validated. -/
def tryBlock (r : ServiceRunner σ P) (raw : RawMessage)
    (rest : BaseServiceContract P → Step σ P (ExecutionResult P)) :
    Traced (Event P) σ Failure (ExecutionResult P) := do
  let contract ← Traced.mapError (Failure.mk none) (r.receive raw)
  Traced.mapError (Failure.mk (some contract.envelope.requestId)) (rest contract)

/-- `_run_full_pipeline`. -/
def runFullPipeline (r : ServiceRunner σ P) (raw : RawMessage) : Step σ P (ExecutionResult P) :=
  Traced.handle (r.tryBlock raw r.serve) r.exceptServiceError

/-! ## The receiver branch -/

variable [JsonText]

/-- `json.dumps(contract.model_dump(mode="json")).encode("utf-8")`. -/
def contractBytes (r : ServiceRunner σ P) (contract : BaseServiceContract P) :
    Except PyException Bytes := do
  let document ← contract.modelDump r.contractType.dumpParameters
  let text ← JsonText.dumps (.obj document)
  return encodeUtf8 text

/-- The hand-over to the worker job. -/
def dispatch (r : ServiceRunner σ P) (contract : BaseServiceContract P) :
    Step σ P (ExecutionResult P) := do
  let workerJobName ← Traced.lift (match r.workerJobName with
    | some name => .ok name
    | none => .error (valueError ("ServiceRunner in RECEIVER mode requires worker_job_name; " ++
        "use build_runner() which enforces this invariant.")))
  let requestId := contract.envelope.requestId
  let payload ← Traced.lift (r.contractBytes contract)
  let dispatched ← Traced.call
    (r.jobDispatcher.dispatch workerJobName payload requestId)
    (.dispatch workerJobName payload requestId)
  return {
    requestId
    status := .ok
    contract := some contract
    receipts := none
    error := none
    metadata := Dict.empty.set "dispatched_job_id" (.str dispatched.jobId)
    webhookAck := none }

/-- What `_run_receiver` does once the `request_id` is known. -/
def handOver (r : ServiceRunner σ P) (contract : BaseServiceContract P) :
    Step σ P (ExecutionResult P) := do
  r.check contract
  r.dispatch contract

/-- `_run_receiver`. -/
def runReceiver (r : ServiceRunner σ P) (raw : RawMessage) : Step σ P (ExecutionResult P) :=
  Traced.handle (r.tryBlock raw r.handOver) r.exceptServiceError

/-- The branch the mode selects. -/
def branch (r : ServiceRunner σ P) (raw : RawMessage) : Step σ P (ExecutionResult P) :=
  if r.mode = .receiver then r.runReceiver raw else r.runFullPipeline raw

/-- `execute`: the branch of the mode, inside a span. -/
def execute (r : ServiceRunner σ P) (raw : RawMessage) : Step σ P (ExecutionResult P) :=
  Traced.within
    (Traced.call (r.observability.enter "service_runner.execute" [("mode", r.mode.value)])
      (.enter "service_runner.execute" [("mode", r.mode.value)]))
    (Traced.call (r.observability.exit "service_runner.execute")
      (.exit "service_runner.execute"))
    (r.branch raw)

end ServiceRunner

end Grabatus
