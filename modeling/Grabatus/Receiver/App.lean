import Grabatus.Adapters.JobDispatcherCloudRun
import Grabatus.Receiver.Runner
import Grabatus.Runner.Artifacts

/-!
# The `grabatus-receiver` process

Model of `receiver/cli.py`, `receiver/app.py` and the fields of `settings.py` they read. What
`main` builds out of the environment: the `Settings`, the adapters, and the shared receiver behind
them. `environ` is the environment by name, upper and lower case being one. Of `Settings` it is
the fields the receiver is built from; the others only make `main` fail more often.

**A process that starts is described by its variables** (`receiverMain_eq_ok`): the project and
the region of its jobs, the registry, the schemes and the prefix of the buckets.

Out of scope: FastAPI and uvicorn, which hand a body to `execute` unchanged, and the set-up of
OpenTelemetry, whose tracer and meter are arguments.
-/

namespace Grabatus

open Grabatus.Lib Grabatus.Python

/-! ## `Settings` -/

/-- `_split_csv`: the items of a comma-separated value that are not blank, stripped. -/
def splitCsv (value : String) : List String :=
  ((ServiceRegistry.splitItems value).map strip).filter (· ≠ "")

/-- `_DEFAULT_ALLOWED_SCHEMES`. -/
def defaultAllowedSchemes : List String := ["gs", "bigquery", "secret"]

/-- `Settings`; a `frozenset` is given by its items. -/
structure Settings where
  allowedSchemes : List String
  serviceRegistry : ServiceRegistry
  gcpProject : Option String
  gcpRegion : String
  bucketPrefix : String

namespace Settings

/-- The `allowed_schemes` of an environment. -/
def allowedSchemesOf (environ : String → Option String) : List String :=
  (environ "GBT_ALLOWED_SCHEMES").elim defaultAllowedSchemes splitCsv

/-- The `gcp_region` of an environment. -/
def gcpRegionOf (environ : String → Option String) : String :=
  (environ "GBT_GCP_REGION").getD "us-east1"

/-- The `bucket_prefix` of an environment. -/
def bucketPrefixOf (environ : String → Option String) : String :=
  (environ "GBT_BUCKET_PREFIX").getD "gbt-storage"

variable [UnicodeData]

/-- The `service_registry` of an environment, through `_parse_service_registry`. -/
def serviceRegistryOf (environ : String → Option String) : Except PyException ServiceRegistry :=
  (environ "GBT_SERVICE_REGISTRY").elim (.ok ⟨Dict.empty⟩) ServiceRegistry.fromEnvString

/-- `Settings()`. -/
def ofEnviron (environ : String → Option String) : Except PyException Settings := do
  let serviceRegistry ← serviceRegistryOf environ
  return {
    allowedSchemes := allowedSchemesOf environ
    serviceRegistry
    gcpProject := environ "GBT_GCP_PROJECT"
    gcpRegion := gcpRegionOf environ
    bucketPrefix := bucketPrefixOf environ }

end Settings

/-! ## The receiver -/

variable [UnicodeData] {σ : Type}

/-- `SharedReceiverAdapters`. -/
structure SharedReceiverAdapters (σ : Type) where
  message : MessagePort σ
  authorizer : UriAuthorizationPort σ
  jobDispatcher : JobDispatcherPort σ
  observability : ObservabilityPort σ
  clock : ClockPort σ

/-- The runner that `build_shared_receiver_app` puts behind the app. -/
def buildSharedReceiver (settings : Settings) (adapters : SharedReceiverAdapters σ) :
    SharedReceiverRunner σ where
  message := adapters.message
  authorizer := adapters.authorizer
  jobDispatcher := adapters.jobDispatcher
  observability := adapters.observability
  clock := adapters.clock
  schemeAllowlist := SchemeAllowlist.ofList settings.allowedSchemes
  registry := settings.serviceRegistry
  mode := .sharedReceiver

variable [JsonText]

/-- `main`, up to the app, over the client of the Jobs API, the telemetry and the clock. -/
def receiverMain (environ : String → Option String) (client : JobsClient σ)
    (observability : ObservabilityPort σ) (clock : ClockPort σ) :
    Except PyException (SharedReceiverRunner σ) := do
  let settings ← Settings.ofEnviron environ
  match settings.gcpProject with
  | none => .error (valueError "GBT_GCP_PROJECT must be set when running the shared receiver")
  | some projectId =>
    return buildSharedReceiver settings {
      message := pubSubMessagePort σ
      authorizer := TenantPrefixPolicy.port σ ⟨settings.bucketPrefix, true⟩
      jobDispatcher := CloudRunJobsDispatcher.port ⟨projectId, settings.gcpRegion, client⟩
      observability
      clock }

variable {environ : String → Option String} {client : JobsClient σ}
  {observability : ObservabilityPort σ} {clock : ClockPort σ} {q : SharedReceiverRunner σ}

/-- **What a process that starts was built from.** -/
theorem receiverMain_eq_ok (h : receiverMain environ client observability clock = .ok q) :
    ∃ projectId registry, environ "GBT_GCP_PROJECT" = some projectId ∧
      Settings.serviceRegistryOf environ = .ok registry ∧ q = {
        message := pubSubMessagePort σ
        authorizer := TenantPrefixPolicy.port σ ⟨Settings.bucketPrefixOf environ, true⟩
        jobDispatcher :=
          CloudRunJobsDispatcher.port ⟨projectId, Settings.gcpRegionOf environ, client⟩
        observability
        clock
        schemeAllowlist := SchemeAllowlist.ofList (Settings.allowedSchemesOf environ)
        registry
        mode := .sharedReceiver } := by
  unfold receiverMain Settings.ofEnviron at h
  rcases hregistry : Settings.serviceRegistryOf environ with e | registry
  · rw [hregistry] at h
    exact absurd h nofun
  · rw [hregistry] at h
    rcases hproject : environ "GBT_GCP_PROJECT" with - | projectId
    · simp only [hproject] at h
      exact absurd h nofun
    · simp only [hproject] at h
      exact ⟨projectId, registry, rfl, rfl, (Except.ok.inj h).symm⟩

end Grabatus
