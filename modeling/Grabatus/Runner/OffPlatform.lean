import Grabatus.Adapters.HttpComputeBackend
import Grabatus.Runner.Alike
import Grabatus.Runner.Artifacts
import Grabatus.Runner.Tenants

/-!
# A backend off the platform

Over `adapters/http_compute_backend.py` and `runner/runner.py`. `HttpComputeBackend` forwards a
run to an HTTP endpoint. At the endpoint a backend is hosted: it reads the run off the body of the
request, and wraps its result in the envelope of a response.

* **The body of a request is the body of one run only**, but for the destinations
  (`wire_inj`); and **a wrapped result comes out of the envelope as it went in**
  (`decodeResponse_wrap`).
* **A worker over `HttpComputeBackend` does what a worker with the backend in its process does**,
  call by call, when no more than two requests in a row are lost and the backend neither reads the
  destinations nor raises (`off_platform`). For any other backend, it does what a worker does whose
  backend is told no destinations and of whose errors only that there was one comes back.

Out of scope: the service at the endpoint, which is any client that does what `Hosts` says.
-/

namespace Grabatus

open Grabatus.Lib Grabatus.Lib.Traced Grabatus.Python

variable {σ P ν : Type}

/-! ## The wire -/

/-- The body of the request of a run. -/
def wire (inputs : LoadedInputs) (parameters : Json) (context : ComputeContext) : Json :=
  RequestBody.json ⟨inputs.byRole.mapValues b64encode, parameters, encodeContext context⟩

/-- The envelope of a response: `{"outputs": {<role>: <base64>}, "metadata": <obj>}`. -/
def wrap (result : ComputeResult) : Json :=
  .obj [("outputs", .obj (result.byRole.entries.map fun e => (e.1, .str (b64encode e.2)))),
    ("metadata", .obj result.metadata.entries)]

/-- What a hosted backend is told of a context. -/
def ComputeContext.withoutDestinations (context : ComputeContext) : ComputeContext :=
  { context with outputUris := Dict.empty }

theorem jsonOfStrings_inj {d e : Dict String String} (h : jsonOfStrings d = jsonOfStrings e) :
    d = e := by
  have hentries : d.entries = e.entries := by
    refine List.map_injective_iff.mpr (fun a b hab => ?_) (Json.obj.inj h)
    obtain ⟨hkey, hvalue⟩ := Prod.mk.inj hab
    exact Prod.ext hkey (Json.str.inj hvalue)
  rcases d with ⟨_, _⟩
  rcases e with ⟨_, _⟩
  obtain rfl := hentries
  rfl

/-- **A body is that of one run**, up to where its outputs go. -/
theorem wire_inj {inputs inputs' : LoadedInputs} {parameters parameters' : Json}
    {context context' : ComputeContext}
    (h : wire inputs parameters context = wire inputs' parameters' context') :
    inputs = inputs' ∧ parameters = parameters' ∧
      context.withoutDestinations = context'.withoutDestinations := by
  have hfields := Json.obj.inj h
  simp only [List.cons.injEq, Prod.mk.injEq, true_and, and_true] at hfields
  obtain ⟨hinputs, hparameters, hcontext⟩ := hfields
  refine ⟨?_, hparameters, ?_⟩
  · have hentries := congrArg Dict.entries (jsonOfStrings_inj hinputs)
    rcases inputs with ⟨⟨entries, _⟩⟩
    rcases inputs' with ⟨⟨entries', _⟩⟩
    obtain rfl : entries = entries' := by
      refine List.map_injective_iff.mpr (fun a b hab => ?_) hentries
      obtain ⟨hrole, hpayload⟩ := Prod.mk.inj hab
      exact Prod.ext hrole (b64encode_inj hpayload)
    rfl
  · exact encodeContext_same_iff.mp fun k => by rw [jsonOfStrings_inj hcontext]

section

variable [UnicodeData]

theorem decodeOutput_b64encode (role : String) (payload : Bytes) :
    decodeOutput role (.str (b64encode payload)) = .ok payload := by
  unfold decodeOutput
  simp only [b64decode_b64encode]

theorem decodeOutputs_wrapped (d : Dict String Bytes) :
    decodeOutputs (d.entries.map fun e => (e.1, .str (b64encode e.2))) = .ok d := by
  have hround : (d.entries.map fun e => (e.1, Json.str (b64encode e.2))).mapM
      (fun e => return (e.1, ← decodeOutput e.1 e.2) :
        String × Json → Except PyException (String × Bytes)) = .ok d.entries := by
    rw [List.mapM_map]
    refine (mapM_eq_ok fun e _ => ?_).trans (congrArg Except.ok (List.map_id d.entries))
    show (do return (e.1, ← decodeOutput e.1 (.str (b64encode e.2))) : Except PyException _) = _
    rw [decodeOutput_b64encode]
    rfl
  unfold decodeOutputs
  rw [hround]
  exact congrArg Except.ok ((Dict.fill_eq_iff d.nodup).mpr rfl)

/-- **A wrapped result comes out as it went in.** -/
theorem HttpComputeBackend.decodeResponse_wrap (b : HttpComputeBackend σ P)
    {response : HttpResponse} {result : ComputeResult} (h : response.json = .ok (wrap result)) :
    b.decodeResponse response = .ok result := by
  have hmetadata : Dict.fill id Dict.empty result.metadata.entries = result.metadata :=
    (Dict.fill_eq_iff result.metadata.nodup).mpr rfl
  have hjson : b.responseJson response = .ok (wrap result) := by
    unfold responseJson
    rw [h]
  have houtputs := decodeOutputs_wrapped result.byRole
  unfold decodeResponse
  rw [hjson]
  simp [wrap, Dict.lookup, houtputs, hmetadata, bind, Except.bind, pure, Except.pure]

/-! ## The endpoint -/

/-- What the endpoint makes of what its backend replied. -/
def Wraps (reply : Except PyException ComputeResult) (response : HttpResponse) : Prop :=
  match reply with
  | .ok result => response.statusCode = 200 ∧ response.json = .ok (wrap result)
  | .error _ => response.statusCode = 500

/-- One attempt at a request reaches the endpoint in this world, and the endpoint runs its backend
on a run that has this body. -/
def Reaches (backend : ComputeBackendPort σ Json) (view : σ → ν) (post : PyOp σ HttpResponse)
    (body : Json) (s : σ) : Prop :=
  ∃ inputs parameters context response s₁, wire inputs parameters context = body ∧
    post s = (.ok response, s₁) ∧ ∀ s₀, view s₀ = view s →
      Wraps (backend.run inputs parameters context.withoutDestinations s₀).1 response ∧
        view (backend.run inputs parameters context.withoutDestinations s₀).2 = view s₁

/-- Of three attempts at a request one reaches the endpoint, and those lost before it change
nothing that is seen. -/
def Delivers (backend : ComputeBackendPort σ Json) (view : σ → ν) (post : PyOp σ HttpResponse)
    (body : Json) (s : σ) : Prop :=
  ∃ k ≤ 2, (∀ i < k, Op.Retried (PyException.isA retriableHttpErrors) (Op.outcome post i s)) ∧
    view (Op.after post k s) = view s ∧ Reaches backend view post body (Op.after post k s)

/-- A backend is hosted at the endpoint, and every request is delivered. -/
def HttpClient.Hosts (client : HttpClient σ) (url : String) (backend : ComputeBackendPort σ Json)
    (view : σ → ν) : Prop :=
  ∀ inputs parameters context timeout s, Delivers backend view
    (client.post url (wire inputs parameters context) Dict.empty timeout)
    (wire inputs parameters context) s

/-- The hosted backend, as it looks from the worker's end. -/
def HttpComputeBackend.hosted (b : HttpComputeBackend σ P) (backend : ComputeBackendPort σ Json) :
    ComputeBackendPort σ P where
  requiredInputRoles := b.requiredInputRoles
  optionalInputRoles := b.optionalInputRoles
  outputRoles := b.outputRoles
  run inputs parameters context :=
    Op.mapError (fun _ => serviceError .computeError
        ("HttpComputeBackend non-2xx=500 from " ++ pyRepr b.targetUrl))
      (backend.run inputs (b.modelDump parameters) context.withoutDestinations)

/-- The backend in the process of the worker, with the same roles. -/
def HttpComputeBackend.inProcess (b : HttpComputeBackend σ P)
    (backend : ComputeBackendPort σ Json) : ComputeBackendPort σ P where
  requiredInputRoles := b.requiredInputRoles
  optionalInputRoles := b.optionalInputRoles
  outputRoles := b.outputRoles
  run inputs parameters context := backend.run inputs (b.modelDump parameters) context

/-- A backend that does not read the destinations, and raises nothing. -/
structure ComputeBackendPort.Portable (backend : ComputeBackendPort σ Json) : Prop where
  withoutDestinations : ∀ inputs parameters context,
    backend.run inputs parameters context.withoutDestinations =
      backend.run inputs parameters context
  returns : ∀ inputs parameters context s, ∃ result,
    (backend.run inputs parameters context s).1 = .ok result

/-- Hosting a portable backend makes no difference. -/
theorem ComputeBackendPort.Portable.inProcess_eq {backend : ComputeBackendPort σ Json}
    (h : backend.Portable) (b : HttpComputeBackend σ P) :
    b.inProcess backend = b.hosted backend := by
  have hrun : (b.inProcess backend).run = (b.hosted backend).run := by
    funext inputs parameters context s
    obtain ⟨result, hresult⟩ := h.returns inputs (b.modelDump parameters) context s
    show backend.run inputs (b.modelDump parameters) context s = Op.mapError _ _ s
    rw [h.withoutDestinations]
    unfold Op.mapError
    rcases hreply : backend.run inputs (b.modelDump parameters) context s with ⟨e | _, s'⟩
    · rw [hreply] at hresult
      exact absurd hresult nofun
    · rfl
  exact congrArg
    (ComputeBackendPort.mk b.requiredInputRoles b.optionalInputRoles b.outputRoles) hrun

/-- The POST of an attempt. -/
def HttpComputeBackend.request (b : HttpComputeBackend σ P) (inputs : LoadedInputs) (parameters : P)
    (context : ComputeContext) : PyOp σ HttpResponse :=
  b.client.post b.targetUrl (wire inputs (b.modelDump parameters) context) Dict.empty
    b.timeoutSeconds

/-- What an attempt makes of a reply to its POST. -/
def HttpComputeBackend.judge (b : HttpComputeBackend σ P) :
    Except PyException HttpResponse → Except PyException ComputeResult
  | .ok response => b.result response
  | .error exc => .error (httpError .computeError
      ("HttpComputeBackend POST to " ++ pyRepr b.targetUrl ++ " failed: ") exc)

namespace HttpComputeBackend

variable {b : HttpComputeBackend σ P} {backend : ComputeBackendPort σ Json} {view : σ → ν}

theorem attempt_eq_judge (inputs : LoadedInputs) (parameters : P) (context : ComputeContext)
    (s : σ) :
    b.attempt inputs parameters context s = (b.judge (b.request inputs parameters context s).1,
      (b.request inputs parameters context s).2) := by
  rcases hreply : b.request inputs parameters context s with ⟨e | response, s'⟩
  all_goals
    have hrun : b.client.post b.targetUrl (b.encodeRequest inputs parameters context).json
        Dict.empty b.timeoutSeconds s = _ := hreply
    unfold attempt
    rw [Op.run_bind]
    unfold Op.mapError
    rw [hrun]
    rfl

/-- An attempt is retried when its POST was lost. -/
theorem retried_judge {reply : Except PyException HttpResponse}
    (h : Op.Retried (PyException.isA retriableHttpErrors) reply) :
    Op.Retried (PyException.isA retriableHttpErrors) (b.judge reply) := by
  obtain ⟨e, rfl, hret⟩ := h
  exact ⟨_, rfl, (isA_httpError ..).trans hret⟩

/-- What is judged of a wrapped reply. -/
theorem result_of_wraps {reply : Except PyException ComputeResult} {response : HttpResponse}
    (h : Wraps reply response) :
    b.result response = reply.mapError fun _ => serviceError .computeError
      ("HttpComputeBackend non-2xx=500 from " ++ pyRepr b.targetUrl) := by
  unfold result HttpResponse.isSuccess
  rcases reply with e | result
  · rw [show response.statusCode = 500 from h]
    rfl
  · rw [show response.statusCode = 200 from h.1]
    exact b.decodeResponse_wrap h.2

theorem run_hosted (inputs : LoadedInputs) (parameters : P) (context : ComputeContext) (s : σ) :
    (b.hosted backend).run inputs parameters context s =
      ((backend.run inputs (b.modelDump parameters) context.withoutDestinations s).1.mapError
        fun _ => serviceError .computeError
          ("HttpComputeBackend non-2xx=500 from " ++ pyRepr b.targetUrl),
      (backend.run inputs (b.modelDump parameters) context.withoutDestinations s).2) := by
  show Op.mapError _ _ s = _
  unfold Op.mapError
  rcases backend.run inputs (b.modelDump parameters) context.withoutDestinations s with
    ⟨e | result, s'⟩ <;> rfl

/-- **Forwarding a run is running it at the endpoint.** -/
theorem run_alike (h : b.client.Hosts b.targetUrl backend view) (inputs : LoadedInputs)
    (parameters : P) (context : ComputeContext) :
    Respects (LookAlike view) ((b.hosted backend).run inputs parameters context)
      (b.port.run inputs parameters context) := by
  intro s₀ s hs
  have hdelivers : Delivers backend view (b.request inputs parameters context) _ s :=
    h inputs (b.modelDump parameters) context b.timeoutSeconds s
  obtain ⟨k, hk, hlost, hkept, inputs', parameters', context', response, s₁, hbody, hpost,
      hreply⟩ :=
    hdelivers
  obtain ⟨rfl, rfl, hcontext⟩ := wire_inj hbody
  rw [hcontext] at hreply
  obtain ⟨hwraps, hworld⟩ := hreply s₀ (Eq.trans hs hkept.symm)
  have hattempt : ∀ s, b.attempt inputs' parameters context s =
      (b.judge (b.request inputs' parameters context s).1,
        (b.request inputs' parameters context s).2) :=
    attempt_eq_judge inputs' parameters context
  have hworlds : ∀ s, (b.attempt inputs' parameters context s).2 =
      (b.request inputs' parameters context s).2 := fun s => congrArg Prod.snd (hattempt s)
  have hbefore : ∀ i < k, Op.Retried (PyException.isA retriableHttpErrors)
      (Op.outcome (b.attempt inputs' parameters context) i s) := by
    intro i hi
    rw [Op.outcome_of_judged hattempt]
    exact retried_judge (hlost i hi)
  have hlast : b.attempt inputs' parameters context
      (Op.after (b.attempt inputs' parameters context) k s) =
        (((b.hosted backend).run inputs' parameters context s₀).1, s₁) := by
    rw [Op.after_congr hworlds, hattempt, hpost]
    rw [run_hosted]
    exact Prod.ext (result_of_wraps hwraps) rfl
  have hdone : ¬ Op.Retried (PyException.isA retriableHttpErrors)
      (Op.outcome (b.attempt inputs' parameters context) k s) := by
    rw [Op.outcome, hlast, run_hosted]
    rintro ⟨e, he, hret⟩
    rcases hrun : (backend.run inputs' (b.modelDump parameters) context.withoutDestinations s₀).1
      with e' | result
    · rw [hrun] at he
      obtain rfl := Except.error.inj he
      rw [isA_of_isServiceError rfl] at hret
      exact absurd hret nofun
    · rw [hrun] at he
      exact absurd he nofun
  have hrun : b.port.run inputs' parameters context s =
      (((b.hosted backend).run inputs' parameters context s₀).1, s₁) :=
    (Op.retry_of_done hk hbefore hdone).trans hlast
  refine ⟨(congrArg Prod.fst hrun).symm, ?_⟩
  rw [hrun, run_hosted]
  exact hworld

end HttpComputeBackend

/-! ## A whole run -/

/-- No port but the backend looks at more of the world than the view. -/
structure ServiceRunner.LooksAt (r : ServiceRunner σ P) (view : σ → ν) : Prop where
  receives : r.ReceivesAlike (LookAlike view)
  resolve : ∀ ref, Respects (LookAlike view) (r.secrets.resolve ref) (r.secrets.resolve ref)
  read : ∀ spec c, Respects (LookAlike view) (r.storage.read spec c) (r.storage.read spec c)
  now : Respects (LookAlike view) r.clock.now r.clock.now
  write : ∀ spec payload c,
    Respects (LookAlike view) (r.storage.write spec payload c) (r.storage.write spec payload c)
  notify : ∀ callback payload, Respects (LookAlike view) (r.webhook.notify callback payload)
    (r.webhook.notify callback payload)

/-- The runner over a backend. -/
def ServiceRunner.withBackend (r : ServiceRunner σ P) (compute : ComputeBackendPort σ P) :
    ServiceRunner σ P :=
  { r with compute }

/-- Two runners do the same on a message: they end alike, make the same calls with the same replies,
and leave what is seen alike. -/
def ServiceRunner.DoesAs [Pydantic] [JsonText] (r r' : ServiceRunner σ P) (view : σ → ν)
    (raw : RawMessage) (s s' : σ) : Prop :=
  (r.execute raw s).result = (r'.execute raw s').result ∧
    view (r.execute raw s).world = view (r'.execute raw s').world ∧
      (r.execute raw s).trace = (r'.execute raw s').trace

/-- A run over HTTP does what the run does with the hosted backend. -/
theorem doesAs_hosted [Pydantic] [JsonText] {r : ServiceRunner σ P} {b : HttpComputeBackend σ P}
    {backend : ComputeBackendPort σ Json} {view : σ → ν} (hports : r.LooksAt view)
    (hhosts : b.client.Hosts b.targetUrl backend view) (raw : RawMessage) (s s' : σ)
    (hs : view s = view s') :
    (r.withBackend (b.hosted backend)).DoesAs (r.withBackend b.port) view raw s s' := by
  have hreceives : (r.withBackend (b.hosted backend)).ReceivesAlike (LookAlike view) :=
    { decode := hports.receives.decode
      authorize := hports.receives.authorize
      dispatch := hports.receives.dispatch
      enter := hports.receives.enter
      exit := hports.receives.exit
      metric := hports.receives.metric }
  have hserves : ∀ contract, (r.withBackend (b.hosted backend)).ServesAlike r.secrets b.port
      contract (LookAlike view) some Eq := fun contract =>
    { null := rfl
      resolve := fun ref s s' hs => by
        obtain ⟨hreply, hworld⟩ := hports.resolve ref s s' hs
        exact ⟨hreply ▸ Alike.refl _, hworld⟩
      read := fun spec _ c c' hc => hc ▸ hports.read spec c
      now := hports.now
      run := fun inputs context => HttpComputeBackend.run_alike hhosts inputs _ context
      write := fun spec _ payload c c' hc => hc ▸ hports.write spec payload c
      notify := fun payload => hports.notify _ payload
      markResolve := fun ref reply reply' h => by rw [h.eq]
      markRead := fun spec c c' reply hc => by rw [hc]
      markWrite := fun spec payload c c' reply hc => by rw [hc] }
  have hroles : (b.hosted backend).SameRoles b.port := ⟨rfl, rfl, rfl⟩
  obtain ⟨hresult, hworld, hmarks⟩ := ServiceRunner.execute_alike hreceives hroles
    (fun contract _ _ _ => hserves contract) s s' hs
  rw [List.filterMap_some, List.filterMap_some] at hmarks
  exact ⟨hresult.eq, hworld, hmarks⟩

/-- **A backend does the same off the platform as in the process of the worker** when it neither
reads the destinations nor raises; and any backend does there what it does in the process when it
is told no destinations and its errors are those of an answer that is not 2xx. -/
theorem off_platform [Pydantic] [JsonText] {r : ServiceRunner σ P} {b : HttpComputeBackend σ P}
    {backend : ComputeBackendPort σ Json} {view : σ → ν} (hports : r.LooksAt view)
    (hhosts : b.client.Hosts b.targetUrl backend view) (raw : RawMessage) (s s' : σ)
    (hs : view s = view s') :
    (backend.Portable →
        (r.withBackend (b.inProcess backend)).DoesAs (r.withBackend b.port) view raw s s') ∧
      (r.withBackend (b.hosted backend)).DoesAs (r.withBackend b.port) view raw s s' := by
  have hhosted := doesAs_hosted hports hhosts raw s s' hs
  refine ⟨fun hportable => ?_, hhosted⟩
  rw [hportable.inProcess_eq]
  exact hhosted

end

/-! ## A network that loses two requests of three -/

namespace Sample

/-- The result of the sample, with its readout. -/
def remoteResult : ComputeResult := ⟨outputs.set readoutOutputRole readoutBytes, Dict.empty⟩

/-- A backend that knows its result. -/
def remoteBackend : ComputeBackendPort Nat Json where
  requiredInputRoles := {"timeseries"}
  optionalInputRoles := ∅
  outputRoles := {"result_json"}
  run _ _ _ := pure remoteResult

/-- What comes back. -/
def remoteResponse : HttpResponse := ⟨200, ByteArray.empty, "", .ok (wrap remoteResult)⟩

/-- Every third request arrives. -/
def lossyPost : PyOp Nat HttpResponse := fun count =>
  if count % 3 = 2 then (.ok remoteResponse, count + 1)
  else (.error (.raised .httpxConnectError "connection refused"), count + 1)

/-- The adapter, over this network. -/
def lossyBackend : HttpComputeBackend Nat OpaqueParameters where
  targetUrl := "https://compute"
  client := { get := fun _ _ _ => lossyPost, post := fun _ _ _ _ => lossyPost }
  timeoutSeconds := .finite 600
  requiredInputRoles := {"timeseries"}
  optionalInputRoles := ∅
  outputRoles := {"result_json"}
  modelDump p := .obj p.entries

theorem lossyPost_after : ∀ i count, Op.after lossyPost i count = count + i
  | 0, _ => rfl
  | i + 1, count => by
    have hworld : (lossyPost count).2 = count + 1 := by
      unfold lossyPost
      split <;> rfl
    rw [Op.after, hworld, lossyPost_after i]
    omega

/-- The network keeps count, and nobody looks. -/
theorem lossyBackend_hosts :
    lossyBackend.client.Hosts "https://compute" remoteBackend fun _ => () := by
  intro inputs parameters context timeout count
  have hlost : ∀ i < 2 - count % 3, lossyPost (Op.after lossyPost i count) =
      (.error (.raised .httpxConnectError "connection refused"), count + i + 1) := by
    intro i hi
    rw [lossyPost_after, lossyPost, if_neg (by omega)]
  have harrives : lossyPost (Op.after lossyPost (2 - count % 3) count) =
      (.ok remoteResponse, count + (2 - count % 3) + 1) := by
    rw [lossyPost_after, lossyPost, if_pos (by omega)]
  exact ⟨2 - count % 3, by omega, fun i hi => ⟨_, congrArg Prod.fst (hlost i hi), rfl⟩, rfl, inputs,
    parameters, context, remoteResponse, _, rfl, harrives, fun _ _ => ⟨⟨rfl, rfl⟩, rfl⟩⟩

/-- A worker whose storage, webhook and secrets are always the same. -/
def steadyWorker [UnicodeData] : ServiceRunner Nat OpaqueParameters where
  contractType := ContractType.opaqueService
  storage := ⟨fun _ _ => pure (encodeUtf8 "data"),
    fun spec payload _ => pure ⟨spec.destinationUri.text, payload.size, "steady"⟩⟩
  message := ⟨fun _ => pure contract⟩
  webhook := ⟨fun _ _ => pure ⟨200, "ok"⟩⟩
  compute := lossyBackend.port
  secrets := ⟨fun _ => pure nullCredentials⟩
  authorizer := allowAllPolicy _
  observability := nullObservability _
  clock := frozenClock _ now
  jobDispatcher := ⟨fun _ _ requestId => pure ⟨"job", requestId⟩⟩
  schemeAllowlist := ⟨{"gs"}⟩
  mode := .worker
  workerJobName := none

theorem steadyWorker_looksAt [UnicodeData] : steadyWorker.LooksAt fun _ : Nat => () where
  receives := ⟨fun _ _ _ _ => ⟨rfl, rfl⟩, fun _ _ _ _ _ => ⟨rfl, rfl⟩,
    fun _ _ _ _ _ _ => ⟨rfl, rfl⟩,
    fun _ _ _ _ _ => ⟨rfl, rfl⟩, fun _ _ _ _ => ⟨rfl, rfl⟩, fun _ _ _ _ _ _ => ⟨rfl, rfl⟩⟩
  resolve _ _ _ _ := ⟨rfl, rfl⟩
  read _ _ _ _ _ := ⟨rfl, rfl⟩
  now _ _ _ := ⟨rfl, rfl⟩
  write _ _ _ _ _ _ := ⟨rfl, rfl⟩
  notify _ _ _ _ _ := ⟨rfl, rfl⟩

end Sample

section

attribute [local instance] UnicodeData.ascii Sample.pydantic Sample.jsonText

/-- Two requests are lost on the way, and the backend is as good as in the process. -/
theorem off_platform_sample :
    (Sample.steadyWorker.withBackend (Sample.lossyBackend.inProcess Sample.remoteBackend)).DoesAs
      (Sample.steadyWorker.withBackend Sample.lossyBackend.port) (fun _ => ()) Sample.raw 0 0 := by
  have hportable : Sample.remoteBackend.Portable :=
    ⟨fun _ _ _ => rfl, fun _ _ _ _ => ⟨Sample.remoteResult, rfl⟩⟩
  have h := off_platform (r := Sample.steadyWorker) (b := Sample.lossyBackend)
    Sample.steadyWorker_looksAt Sample.lossyBackend_hosts Sample.raw 0 0 rfl
  exact h.1 hportable

end

end Grabatus
