import Grabatus.Adapters.Httpx
import Grabatus.Adapters.MessagePubsub
import Grabatus.Python.Base64

/-!
# `HttpComputeBackend`

Model of `adapters/http_compute_backend.py`. The backend that forwards a run to an HTTP endpoint:
inputs as base64, parameters as their dump, and the run's identity, one text per field.

* **What a request tells apart** (`encodeRequest_same_iff`): its inputs, and every field of the
  context but the destinations of the outputs.
* **Of two runs a request loses nothing** iff they differ in what a request carries or agree on
  their destinations (`request_determines_iff`).

Out of scope: `make_http_compute_backend`, a constructor call. How the service's parameters dump
is a parameter (`modelDump`).
-/

namespace Grabatus

open Grabatus.Lib Grabatus.Python

variable {σ P : Type}

/-! ## The request -/

/-- The body of a request: `inputs`, `parameters` and `context`. -/
structure RequestBody where
  inputs : Dict String String
  parameters : Json
  context : Dict String String

/-- A mapping to strings, as JSON. -/
def jsonOfStrings (d : Dict String String) : Json := .obj (d.entries.map fun e => (e.1, .str e.2))

/-- The body as the client sends it. -/
def RequestBody.json (body : RequestBody) : Json :=
  .obj [("inputs", jsonOfStrings body.inputs), ("parameters", body.parameters),
    ("context", jsonOfStrings body.context)]

/-- `body == body'` of two bodies. -/
def RequestBody.Same (body body' : RequestBody) : Prop :=
  body.inputs.Same body'.inputs ∧ body.parameters = body'.parameters ∧
    body.context.Same body'.context

/-- `_encode_context`. -/
def encodeContext (context : ComputeContext) : Dict String String where
  entries := [("request_id", context.requestId), ("result_id", context.resultId),
    ("parameter_id", context.parameterId), ("tenant_id", context.tenantId),
    ("origin", context.origin.name), ("service_name", context.serviceName),
    ("service_version", context.serviceVersion),
    ("generated_at", context.generatedAt.isoformat)]
  nodup := by simp

/-- `HttpComputeBackend`; `modelDump` is `parameters.model_dump()`, or the parameters themselves
where they have none. -/
structure HttpComputeBackend (σ P : Type) where
  targetUrl : String
  client : HttpClient σ
  timeoutSeconds : Double
  requiredInputRoles : Finset String
  optionalInputRoles : Finset String
  outputRoles : Finset String
  modelDump : P → Json

namespace HttpComputeBackend

variable (b : HttpComputeBackend σ P)

/-- `_encode_request`. -/
def encodeRequest (inputs : LoadedInputs) (parameters : P) (context : ComputeContext) :
    RequestBody where
  inputs := inputs.byRole.mapValues b64encode
  parameters := b.modelDump parameters
  context := encodeContext context

end HttpComputeBackend

/-! ## What a request determines -/

/-- The contexts agree on every field but the destinations. -/
def ComputeContext.SameRun (c d : ComputeContext) : Prop :=
  { c with outputUris := Dict.empty } = { d with outputUris := Dict.empty }

/-- The contexts agree on every field. -/
def ComputeContext.Agree (c d : ComputeContext) : Prop :=
  c.SameRun d ∧ c.outputUris.Same d.outputUris

theorem Origin.name_inj {o o' : Origin} (h : o.name = o'.name) : o = o' :=
  Option.some.inj ((Origin.lookup_name o).symm.trans (h ▸ Origin.lookup_name o'))

/-- **The flattened context** is the run's identity, and nothing else of the context. -/
theorem encodeContext_same_iff {c d : ComputeContext} :
    (encodeContext c).Same (encodeContext d) ↔ c.SameRun d := by
  constructor
  · intro h
    have hrequest : c.requestId = d.requestId := Option.some.inj (h "request_id")
    have hresult : c.resultId = d.resultId := Option.some.inj (h "result_id")
    have hparameter : c.parameterId = d.parameterId := Option.some.inj (h "parameter_id")
    have htenant : c.tenantId = d.tenantId := Option.some.inj (h "tenant_id")
    have horigin : c.origin.name = d.origin.name := Option.some.inj (h "origin")
    have hname : c.serviceName = d.serviceName := Option.some.inj (h "service_name")
    have hversion : c.serviceVersion = d.serviceVersion := Option.some.inj (h "service_version")
    have hgenerated : c.generatedAt.isoformat = d.generatedAt.isoformat :=
      Option.some.inj (h "generated_at")
    unfold ComputeContext.SameRun
    rw [hrequest, hresult, hparameter, htenant, Origin.name_inj horigin, hname, hversion,
      Datetime.isoformat_inj hgenerated]
  · intro h k
    have hcontext : encodeContext { c with outputUris := Dict.empty } =
        encodeContext { d with outputUris := Dict.empty } := congrArg encodeContext h
    exact congrArg (fun e => e.get? k) hcontext

namespace HttpComputeBackend

variable {b : HttpComputeBackend σ P} {inputs inputs' : LoadedInputs} {parameters : P}
  {context context' : ComputeContext}

/-- **What a request tells apart**: its inputs, and the identity of its run. -/
theorem encodeRequest_same_iff :
    (b.encodeRequest inputs parameters context).Same
        (b.encodeRequest inputs' parameters context') ↔
      inputs.byRole.Same inputs'.byRole ∧ context.SameRun context' := by
  have hinputs : (inputs.byRole.mapValues b64encode).Same (inputs'.byRole.mapValues b64encode) ↔
      inputs.byRole.Same inputs'.byRole := Dict.same_mapValues fun _ _ => b64encode_inj
  constructor
  · rintro ⟨hi, -, hc⟩
    exact ⟨hinputs.mp hi, encodeContext_same_iff.mp hc⟩
  · rintro ⟨hi, hc⟩
    exact ⟨hinputs.mpr hi, rfl, encodeContext_same_iff.mpr hc⟩

/-- **A request loses nothing of two runs** iff they differ in what it carries or agree on where
their outputs go. -/
theorem request_determines_iff (b : HttpComputeBackend σ P) (inputs inputs' : LoadedInputs)
    (parameters : P) (context context' : ComputeContext) :
    ((b.encodeRequest inputs parameters context).Same
        (b.encodeRequest inputs' parameters context') →
      inputs.byRole.Same inputs'.byRole ∧ context.Agree context') ↔
    (inputs.byRole.Same inputs'.byRole → context.SameRun context' →
      context.outputUris.Same context'.outputUris) := by
  rw [encodeRequest_same_iff]
  constructor
  · exact fun h hinputs hrun => (h ⟨hinputs, hrun⟩).2.2
  · rintro h ⟨hinputs, hrun⟩
    exact ⟨hinputs, hrun, h hinputs hrun⟩

end HttpComputeBackend

/-- A run whose result goes to `uri`. -/
def Sample.contextTo (uri : String) : ComputeContext where
  requestId := "q"
  resultId := "r"
  parameterId := "p"
  tenantId := "t"
  origin := .web
  serviceName := "s"
  serviceVersion := "1.0.0"
  generatedAt := ⟨⟨2026, 5, 1⟩, 9, 30, 0, 0, some 0⟩
  outputUris := Dict.empty.set "result_json" uri

/-- A backend without parameters, off the network. -/
def Sample.httpBackend : HttpComputeBackend Unit Unit where
  targetUrl := "https://lambda.test/run"
  client := {
    get := fun _ _ _ => Op.fail (.raised .httpxConnectError "no network")
    post := fun _ _ _ _ => Op.fail (.raised .httpxConnectError "no network") }
  timeoutSeconds := .finite 600
  requiredInputRoles := ∅
  optionalInputRoles := ∅
  outputRoles := {"result_json"}
  modelDump _ := .obj []

/-- Two runs whose results go to different places make one request. -/
theorem destination_not_sent :
    Sample.httpBackend.encodeRequest ⟨Dict.empty⟩ () (Sample.contextTo "gs://b/r.json") =
        Sample.httpBackend.encodeRequest ⟨Dict.empty⟩ () (Sample.contextTo "gs://b/s.json") ∧
      ¬ (Sample.contextTo "gs://b/r.json").Agree (Sample.contextTo "gs://b/s.json") :=
  ⟨rfl, fun h => absurd (h.2 "result_json") (by decide)⟩

/-! ## The response -/

section

variable [UnicodeData]

/-- One round of `_decode_outputs`. -/
def decodeOutput (role : String) : Json → Except PyException Bytes
  | .str encoded =>
    match b64decode encoded with
    | .ok payload => .ok payload
    | .error message => .error (serviceError .computeError
        ("HttpComputeBackend response output role=" ++ pyRepr role ++ " is not valid base64: " ++
          message))
  | j => .error (serviceError .computeError
      ("HttpComputeBackend response output role=" ++ pyRepr role ++
        " must be a base64 string, got " ++ typeName j))

/-- `_decode_outputs`. -/
def decodeOutputs (outputs : JsonObject) : Except PyException (Dict String Bytes) := do
  let decoded ← outputs.mapM fun e => return (e.1, ← decodeOutput e.1 e.2)
  return Dict.fill id Dict.empty decoded

namespace HttpComputeBackend

variable (b : HttpComputeBackend σ P)

/-- `response.json()`, a `JSONDecodeError` translated. -/
def responseJson (response : HttpResponse) : Except PyException Json :=
  match response.json with
  | .ok body => .ok body
  | .error exc =>
    if exc.isA [.jsonDecodeError] then
      .error (serviceError .computeError ("HttpComputeBackend response from " ++
        pyRepr b.targetUrl ++ " is not valid JSON: " ++ exc.str))
    else .error exc

/-- `_decode_response`. -/
def decodeResponse (response : HttpResponse) : Except PyException ComputeResult := do
  match ← b.responseJson response with
  | .obj body =>
    match Dict.lookup "outputs" body with
    | some (.obj outputs) =>
      let decoded ← decodeOutputs outputs
      match (Dict.lookup "metadata" body).getD (.obj []) with
      | .obj metadata => return ⟨decoded, Dict.fill id Dict.empty metadata⟩
      | j => .error (serviceError .computeError
          ("HttpComputeBackend response 'metadata' must be an object, got " ++ typeName j))
    | _ => .error (serviceError .computeError ("HttpComputeBackend response from " ++
        pyRepr b.targetUrl ++ " must contain an 'outputs' object"))
  | j => .error (serviceError .computeError ("HttpComputeBackend response from " ++
      pyRepr b.targetUrl ++ " must be a JSON object, got " ++ typeName j))

/-- What `run` makes of a response. -/
def result (response : HttpResponse) : Except PyException ComputeResult :=
  if response.isSuccess then b.decodeResponse response
  else .error (serviceError .computeError ("HttpComputeBackend non-2xx=" ++
    toString response.statusCode ++ " from " ++ pyRepr b.targetUrl))

/-- One attempt of `run`. -/
def attempt (inputs : LoadedInputs) (parameters : P) (context : ComputeContext) :
    PyOp σ ComputeResult := do
  let response ← Op.mapError
    (httpError .computeError ("HttpComputeBackend POST to " ++ pyRepr b.targetUrl ++ " failed: "))
    (b.client.post b.targetUrl (b.encodeRequest inputs parameters context).json Dict.empty
      b.timeoutSeconds)
  Op.ofExcept (b.result response)

/-- `HttpComputeBackend` as a backend. -/
def port : ComputeBackendPort σ P where
  requiredInputRoles := b.requiredInputRoles
  optionalInputRoles := b.optionalInputRoles
  outputRoles := b.outputRoles
  run inputs parameters context :=
    withRetry retriableHttpErrors (b.attempt inputs parameters context)

end HttpComputeBackend

end

end Grabatus
