import Grabatus.Contract.Readout.Root
import Grabatus.Errors

/-!
# Values passed between ports and the runner

Model of `ports/values.py`, `ports/compute_context.py` and `ports/job_dispatcher.py`. The value
objects, and `ComputeContext`: what a backend is told about the run. The blocks a readout must
carry are built from the context, and for the context of a contract they are always valid
(`ComputeContext.readoutRequest_ofContract`, `ComputeContext.readoutService_ofContract`); they
determine everything they were built from (`ComputeContext.blocks_inj`).

Out of scope: `MappingProxyType`; the mappings are values here, and nobody can change them.
-/

namespace Grabatus

open Grabatus.Lib Grabatus.Python

/-- `RawMessage`. -/
structure RawMessage where
  payload : Bytes
  deriving DecidableEq

/-- `Credentials`. -/
structure Credentials where
  token : Bytes
  tokenType : String
  deriving DecidableEq

/-- `WriteReceipt`. -/
structure WriteReceipt where
  uri : String
  bytesWritten : Int
  requestIdTag : String
  deriving DecidableEq

/-- `LoadedInputs`. -/
structure LoadedInputs where
  byRole : Dict String Bytes
  deriving DecidableEq

/-- `ComputeResult`; the metadata is any mapping. -/
structure ComputeResult where
  byRole : Dict String Bytes
  metadata : Dict String Json

/-- `WebhookAck`. -/
structure WebhookAck where
  httpStatus : Int
  responseBody : String
  deriving DecidableEq

/-- `DispatchedJob`. -/
structure DispatchedJob where
  jobId : String
  requestId : UUID
  deriving DecidableEq

/-! ## The compute context -/

/-- `ComputeContext`: the run's identity, handed to the backend. -/
structure ComputeContext where
  requestId : String
  resultId : String
  parameterId : String
  tenantId : String
  origin : Origin
  serviceName : String
  serviceVersion : String
  generatedAt : Datetime
  outputUris : Dict String String
  deriving DecidableEq

namespace ComputeContext

variable [UnicodeData] {P : Type}

/-- `ComputeContext.from_contract`. -/
def ofContract (c : ContractFields P) (generatedAt : Datetime) : ComputeContext where
  requestId := c.envelope.requestId.str
  resultId := c.references.resultId.val
  parameterId := c.references.parameterId.val
  tenantId := c.identity.tenantId.val
  origin := c.envelope.origin
  serviceName := c.service.name.val
  serviceVersion := c.service.version.val
  generatedAt := generatedAt
  outputUris := Dict.fill id Dict.empty
    (c.outputs.toList.map fun s => (s.role.val, s.destinationUri.text))

/-- `artifact_uri`. -/
def artifactUri (ctx : ComputeContext) (role : String) : Except PyException String :=
  match ctx.outputUris.get? role with
  | some uri => .ok uri
  | none => .error (serviceError .unknownOutputRoleError
      ("contract declares no output role " ++ pyRepr role ++ "; declared roles are " ++
        pyReprList (sorted ctx.outputUris.keys.toFinset)))

/-- `readout_request`. -/
def readoutRequest (ctx : ComputeContext) : Validated ReadoutRequest :=
  ReadoutRequest.validate (.obj [("request_id", .str ctx.requestId),
    ("result_id", .str ctx.resultId), ("parameter_id", .str ctx.parameterId),
    ("tenant_id", .str ctx.tenantId), ("origin", .str ctx.origin.name)])

/-- `readout_service`. -/
def readoutService (ctx : ComputeContext) : Validated ReadoutService :=
  ReadoutService.validate
    (.obj [("name", .str ctx.serviceName), ("version", .str ctx.serviceVersion)])

/-- The request block of a contract. -/
def requestBlock (c : ContractFields P) : ReadoutRequest where
  requestId := ⟨c.envelope.requestId.str, StrSpec.check_eq_none.mpr
    ⟨by rw [UUID.length_str]; decide, by
      rintro n ⟨⟩
      rw [UUID.length_str]
      decide, nofun⟩⟩
  resultId := c.references.resultId
  parameterId := c.references.parameterId
  tenantId := c.identity.tenantId
  origin := c.envelope.origin

/-- The service block of a contract. -/
def serviceBlock (c : ContractFields P) : ReadoutService where
  name := c.service.name
  version := ⟨c.service.version.val, StrSpec.check_eq_none.mpr
    ⟨Nat.zero_le _, nofun, (StrSpec.check_eq_none.mp c.service.version.ok).2.2⟩⟩

/-- **Every contract's request block is valid.** -/
theorem readoutRequest_ofContract (c : ContractFields P) (t : Datetime) :
    (ofContract c t).readoutRequest = .ok (requestBlock c) := by
  unfold readoutRequest ReadoutRequest.validate
  refine model_eq_ok.mpr ⟨_, rfl, ?_, by simp⟩
  have hid : str readoutRequestIdSpec (.str c.envelope.requestId.str) =
      .ok (requestBlock c).requestId := str_eq_ok.mpr rfl
  simp [field, Dict.lookup, ofContract, hid, Undoes.literal Origin.lookup_name c.envelope.origin]
  rfl

/-- **Every contract's service block is valid.** -/
theorem readoutService_ofContract (c : ContractFields P) (t : Datetime) :
    (ofContract c t).readoutService = .ok (serviceBlock c) := by
  unfold readoutService ReadoutService.validate
  refine model_eq_ok.mpr ⟨_, rfl, ?_, by simp⟩
  have hv : str readoutVersionSpec (.str c.service.version.val) =
      .ok (serviceBlock c).version := str_eq_ok.mpr rfl
  simp [field, Dict.lookup, ofContract, hv]
  rfl

/-- **The two blocks determine what they were built from.** -/
theorem blocks_inj {Q : Type} {c : ContractFields P} {d : ContractFields Q}
    (hr : requestBlock c = requestBlock d) (hs : serviceBlock c = serviceBlock d) :
    c.envelope.requestId = d.envelope.requestId ∧ c.references = d.references ∧
      c.identity.tenantId = d.identity.tenantId ∧ c.envelope.origin = d.envelope.origin ∧
        c.service = d.service := by
  simp only [requestBlock, ReadoutRequest.mk.injEq, Str.mk.injEq] at hr
  simp only [serviceBlock, ReadoutService.mk.injEq, Str.mk.injEq] at hs
  obtain ⟨hid, hresult, hparam, htenant, horigin⟩ := hr
  refine ⟨UUID.str_inj hid, ?_, htenant, horigin, ?_⟩
  · rcases hc : c.references with ⟨p, r⟩
    rcases hd : d.references with ⟨p', r'⟩
    rw [hc, hd] at hresult hparam
    exact congrArg₂ References.mk hparam hresult
  · rcases hc : c.service with ⟨n, v⟩
    rcases hd : d.service with ⟨n', v'⟩
    rw [hc, hd] at hs
    exact congrArg₂ ServiceDescriptor.mk hs.1 (Str.ext hs.2)

end ComputeContext

end Grabatus
