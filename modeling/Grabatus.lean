import Grabatus.Errors
import Grabatus.Lib.Dict
import Grabatus.Lib.Schema
import Grabatus.Lib.Reread
import Grabatus.Lib.Bounds
import Grabatus.Lib.Traced
import Grabatus.Lib.InStep
import Grabatus.Lib.Retry
import Grabatus.Lib.Rules
import Grabatus.Lib.Store
import Grabatus.Lib.Unwinding
import Grabatus.Lib.History
import Grabatus.Lib.Text
import Grabatus.Python.Str
import Grabatus.Python.Base64
import Grabatus.Python.Datetime
import Grabatus.Python.IpAddress
import Grabatus.Python.JsonText
import Grabatus.Python.UrlParse
import Grabatus.Contract.Pydantic
import Grabatus.Contract.SecretRef
import Grabatus.Contract.Sections
import Grabatus.Contract.IoSpec
import Grabatus.Contract.Base
import Grabatus.Contract.Readout.Models
import Grabatus.Contract.Readout.Narrative
import Grabatus.Contract.Readout.Root
import Grabatus.Contract.Duplicates
import Grabatus.Contract.Opaque
import Grabatus.Contract.Readout.Dump
import Grabatus.Testing.Leaves
import Grabatus.Testing.Readout
import Grabatus.Contract.Readout.RoundTrip
import Grabatus.Testing.JsonCode
import Grabatus.Contract.Readout.Bounds
import Grabatus.Contract.Readout.Rules
import Grabatus.Contract.Readout.Instances
import Grabatus.Contract.Readout.Intervals
import Grabatus.Contract.Readout.UriPattern
import Grabatus.Ports.Values
import Grabatus.Ports.Ports
import Grabatus.Security.UriParser
import Grabatus.Security.HostBlocklist
import Grabatus.Security.TenantPrefixPolicy
import Grabatus.Adapters.Retry
import Grabatus.Adapters.StorageGcs
import Grabatus.Security.Isolation
import Grabatus.Security.Tenancy
import Grabatus.Runner.Steps
import Grabatus.Runner.Runner
import Grabatus.Runner.Runs
import Grabatus.Runner.Gate
import Grabatus.Runner.Transcript
import Grabatus.Runner.Order
import Grabatus.Adapters.MessagePubsub
import Grabatus.Testing.Fakes
import Grabatus.Runner.Artifacts
import Grabatus.Runner.Success
import Grabatus.Runner.Failure
import Grabatus.Runner.Totality
import Grabatus.Receiver.Registry
import Grabatus.Receiver.Runner
import Grabatus.Runner.Authorized
import Grabatus.Adapters.StorageCompressed
import Grabatus.Runner.Delivery
import Grabatus.Runner.ErrorResult
import Grabatus.Runner.Explained
import Grabatus.Runner.InStep
import Grabatus.Runner.Alike
import Grabatus.Runner.Obeys
import Grabatus.Runner.Confined
import Grabatus.Runner.Tenants
import Grabatus.Runner.Secrecy
import Grabatus.Runner.Interleaved
import Grabatus.Runner.Roles
import Grabatus.Adapters.Httpx
import Grabatus.Adapters.Webhook
import Grabatus.Runner.Worker
import Grabatus.Adapters.HttpComputeBackend
import Grabatus.Runner.OffPlatform
import Grabatus.Adapters.JobDispatcherCloudRun
import Grabatus.Adapters.PubsubCodec
import Grabatus.Adapters.SecretsGsm
import Grabatus.Adapters.StorageHttp
import Grabatus.Adapters.StorageComposite
import Grabatus.Adapters.StorageInline
import Grabatus.Adapters.StorageLocalfs
import Grabatus.Adapters.StorageAssembled
import Grabatus.Runner.Budget
import Grabatus.Adapters.TypedErrors
import Grabatus.Adapters.WriteMode
import Grabatus.Adapters.ReadBack
import Grabatus.Adapters.ObservabilityOtel
import Grabatus.Receiver.Deliveries
import Grabatus.Receiver.Handover
import Grabatus.Receiver.Executions
import Grabatus.Runner.Telemetry
