import Grabatus.Adapters.HttpComputeBackend
import Grabatus.Adapters.SecretsGsm
import Grabatus.Adapters.StorageAssembled
import Grabatus.Adapters.Webhook
import Grabatus.Runner.Obeys
import Grabatus.Testing.Fakes

/-!
# How many requests a run makes

Over `runner/runner.py` and the adapters of `adapters/`. `requests` counts what the far side of
the clients was asked so far. Every adapter asks at most three times, its `with_retry` included,
and a storage put together from such adapters does (`Assembled.costs`).

**A run that serves makes at most 132 requests, three for each of its effects**
(`requests_bounded`): its effects follow the plan of one contract, which declares at most ten
inputs and eleven outputs, so there are at most 21 secrets, ten reads, one backend, eleven writes
and one callback. Nothing is asked before the contract passed the check, and what fails is not
started over.

Out of scope: requests that a client makes of its own accord, such as a redirect it follows.
-/

namespace Grabatus

open Grabatus.Lib Grabatus.Python

variable {σ P : Type} {requests : σ → Nat}

/-! ## The adapters -/

/-- Three attempts of one request are three requests. -/
theorem withRetry_costs {α : Type} {op : PyOp σ α} (h : Op.Costs requests 1 op)
    (retryOn : List ExceptionClass) : Op.Costs requests 3 (withRetry retryOn op) :=
  h.retry _ 2

/-- Every call of the storage costs `n` at most. -/
structure StoragePort.Costs (storage : StoragePort σ) (requests : σ → Nat) (n : Nat) : Prop where
  read : ∀ spec c, Op.Costs requests n (storage.read spec c)
  write : ∀ spec payload c, Op.Costs requests n (storage.write spec payload c)

/-- Every call of the client is one request. -/
structure GcsClient.Requests (client : GcsClient σ) (requests : σ → Nat) : Prop where
  download : ∀ bucket blob, Op.Costs requests 1 (client.downloadAsBytes bucket blob)
  upload : ∀ bucket blob payload, Op.Costs requests 1 (client.uploadFromString bucket blob payload)

/-- The same of an HTTP client. -/
structure HttpClient.Requests (client : HttpClient σ) (requests : σ → Nat) : Prop where
  get : ∀ url headers timeout, Op.Costs requests 1 (client.get url headers timeout)
  post : ∀ url body headers timeout, Op.Costs requests 1 (client.post url body headers timeout)

theorem GoogleSecretManagerAdapter.resolve_costs [UnicodeData] {a : GoogleSecretManagerAdapter σ}
    (h : ∀ name, Op.Costs requests 1 (a.accessSecretVersion name)) (ref : SecretRef) :
    Op.Costs requests 3 (a.port.resolve ref) :=
  withRetry_costs (((h _).mapError _).bind fun _ => Op.Costs.ofExcept (.ok _)) _

section

variable [UnicodeData]

theorem GcsStorage.costs {client : GcsClient σ} (h : client.Requests requests) :
    (GcsStorage.port client).Costs requests 3 where
  read spec _ := by
    refine withRetry_costs (Op.Costs.mono (m := 0 + (0 + 1)) ?_ (by decide)) _
    exact (Op.Costs.ofExcept _).bind fun object => (Op.Costs.ofExcept _).bind fun _ =>
      (h.download object.1 object.2).mapError _
  write spec payload _ := by
    refine withRetry_costs (Op.Costs.mono (m := 0 + (0 + (1 + 0))) ?_ (by decide)) _
    exact (Op.Costs.ofExcept _).bind fun object => (Op.Costs.ofExcept _).bind fun _ =>
      ((h.upload object.1 object.2 payload).mapError _).bind fun _ => Op.Costs.ofExcept (.ok _)

theorem HttpFetchStorage.costs {h : HttpFetchStorage σ} (hclient : h.client.Requests requests) :
    h.port.Costs requests 3 where
  read spec credentials := by
    dsimp only [port, read]
    refine withRetry_costs (Op.Costs.mono (m := 0 + (0 + (0 + (1 + 0)))) ?_ (by decide)) _
    exact (Op.Costs.ofExcept _).bind fun _ => (Op.Costs.ofExcept _).bind fun _ =>
      (Op.Costs.ofExcept _).bind fun headers =>
        ((hclient.get _ headers _).mapError _).bind fun _ => Op.Costs.ofExcept _
  write _ _ _ := (Op.Costs.ofExcept (.error _)).mono (by decide)

/-- No call of the file system is a request. -/
structure FileSystem.RequestsNothing (fs : FileSystem σ) (requests : σ → Nat) : Prop where
  pathExists : ∀ path, Op.Costs requests 0 (fs.pathExists path)
  readBytes : ∀ path, Op.Costs requests 0 (fs.readBytes path)
  mkdir : ∀ path, Op.Costs requests 0 (fs.mkdir path)
  writeBytes : ∀ path payload, Op.Costs requests 0 (fs.writeBytes path payload)

theorem LocalFsStorage.costs {fs : FileSystem σ} (h : fs.RequestsNothing requests)
    (root : Option PosixPath) : (LocalFsStorage.port fs root).Costs requests 0 where
  read spec credentials := by
    show Op.Costs requests (0 + (0 + 0)) (LocalFsStorage.read fs root spec credentials)
    refine (Op.Costs.ofExcept _).bind fun path => (h.pathExists path).bind fun found => ?_
    cases found with
    | false => exact Op.Costs.ofExcept (.error _)
    | true => exact (h.readBytes path).mapError _
  write spec payload credentials := by
    show Op.Costs requests (0 + (0 + 0)) (LocalFsStorage.write fs root spec payload credentials)
    refine (Op.Costs.ofExcept _).bind fun path =>
      Op.Costs.bind ?_ fun _ => Op.Costs.ofExcept (.ok _)
    exact ((h.mkdir path.parent).bind fun _ => h.writeBytes path payload).mapError _

theorem inlineStorage_costs (n : Nat) : (inlineStorage σ).Costs requests n where
  read _ _ := (Op.Costs.ofExcept _).mono (Nat.zero_le n)
  write _ _ _ := (Op.Costs.ofExcept (.error _)).mono (Nat.zero_le n)

/-- **A storage costs what the adapters cost it is put together from.** -/
theorem Assembled.costs {codecs : Codecs} {atHand : StoragePort σ → Prop} {n : Nat}
    (h : ∀ storage, atHand storage → storage.Costs requests n) {storage : StoragePort σ}
    (hstorage : Assembled codecs atHand storage) : storage.Costs requests n := by
  induction hstorage with
  | plain hadapter => exact h _ hadapter
  | compressed hinner ih =>
    exact ⟨fun spec c => (ih.read spec c).bind fun _ => Op.Costs.ofExcept _,
      fun spec payload c => ih.write spec _ c⟩
  | composite hadapters ih =>
    have hfail : ∀ {α : Type} (e : PyException), Op.Costs requests n (Op.fail e : PyOp σ α) :=
      fun e => (Op.Costs.ofExcept (.error e)).mono (Nat.zero_le n)
    exact ⟨fun spec c => CompositeStorage.run_select hfail fun adapter hget =>
        (ih _ adapter hget).read spec c,
      fun spec payload c => CompositeStorage.run_select hfail fun adapter hget =>
        (ih _ adapter hget).write spec payload c⟩

theorem JwtWebhookNotifier.costs {n : JwtWebhookNotifier σ} (h : n.client.Requests requests)
    (callback : Callback) (payload : JsonObject) :
    Op.Costs requests 3 (n.port.notify callback payload) := by
  refine withRetry_costs (Op.Costs.mono (m := 0 + (1 + 0)) ?_ (by decide)) _
  exact (Op.Costs.ofExcept _).bind fun token =>
    ((h.post _ _ _ _).mapError _).bind fun _ => Op.Costs.ofExcept _

theorem HttpComputeBackend.costs {b : HttpComputeBackend σ P} (h : b.client.Requests requests)
    (inputs : LoadedInputs) (parameters : P) (context : ComputeContext) :
    Op.Costs requests 3 (b.port.run inputs parameters context) :=
  withRetry_costs (((h.post _ _ _ _).mapError _).bind fun _ => Op.Costs.ofExcept _) _

/-! ## A run -/

/-- Every effect costs `n` at most, and every other call nothing. -/
structure ServiceRunner.EffectsCost (r : ServiceRunner σ P) (requests : σ → Nat) (n : Nat) :
    Prop where
  resolve : ∀ ref, Op.Costs requests n (r.secrets.resolve ref)
  storage : r.storage.Costs requests n
  run : ∀ inputs parameters context, Op.Costs requests n (r.compute.run inputs parameters context)
  notify : ∀ callback payload, Op.Costs requests n (r.webhook.notify callback payload)
  decode : ∀ raw, Op.Costs requests 0 (r.message.decode raw)
  authorize : ∀ uri identity, Op.Costs requests 0 (r.authorizer.authorize uri identity)
  now : Op.Costs requests 0 r.clock.now
  enter : ∀ span tags, Op.Costs requests 0 (r.observability.enter span tags)
  exit : ∀ span, Op.Costs requests 0 (r.observability.exit span)
  metric : ∀ name value tags, Op.Costs requests 0 (r.observability.metric name value tags)

/-- The secrets of a contract, at most one per spec. -/
theorem length_resolvePlan_le (c : ContractFields P) :
    (resolvePlan c).length ≤ c.inputs.toList.length + c.outputs.toList.length := by
  have hrefs : ∀ {S : Type} (ref : S → Option SecretRef) (specs : List S),
      (specs.flatMap fun spec => resolutions (ref spec)).length ≤ specs.length := by
    intro S ref specs
    induction specs with
    | nil => exact Nat.le_refl _
    | cons spec specs ih =>
      rw [List.flatMap_cons, List.length_append, List.length_cons]
      rcases ref spec with - | secret
      · exact (Nat.add_le_add (Nat.zero_le 1) ih).trans_eq (Nat.add_comm _ _)
      · exact (Nat.add_le_add_left ih 1).trans_eq (Nat.add_comm _ _)
  have hin := hrefs InputSpec.credentialRef c.inputs.toList
  have hout := hrefs OutputSpec.credentialRef c.outputs.toList
  rw [resolvePlan, List.length_append]
  exact Nat.add_le_add hin hout

/-- **The plan of a contract has at most 44 effects.** -/
theorem length_plan_le (c : ContractFields P) : (plan c).length ≤ 44 := by
  have hresolve := length_resolvePlan_le c
  have hin : c.inputs.toList.length ≤ 10 := c.inputs.le_hi
  have hout : c.outputs.toList.length ≤ 11 := c.outputs.le_hi
  simp only [plan, readPlan, writePlan, List.length_append, List.length_map, List.length_singleton]
  omega

namespace ServiceRunner

variable {r : ServiceRunner σ P} {n : Nat}

variable [Pydantic] [JsonText]

/-- A run that serves pays for its effects, and for nothing else. -/
theorem execute_charges (h : r.EffectsCost requests n) (hmode : r.mode ≠ .receiver)
    (raw : RawMessage) : Traced.Charges requests Event.effect? n (r.execute raw) := by
  have hcalls : r.CallsObey fun s t s' =>
      requests s' ≤ requests s + n * (t.filterMap Event.effect?).length :=
    { decode := fun raw => Traced.Charges.free (h.decode raw)
      authorize := fun uri identity => Traced.Charges.free (h.authorize uri identity)
      resolve := fun ref => Traced.Charges.call (fun _ => rfl) (h.resolve ref)
      now := Traced.Charges.free h.now
      run := fun inputs parameters context =>
        Traced.Charges.call (fun _ => rfl) (h.run inputs parameters context)
      notify := fun callback payload =>
        Traced.Charges.call (fun _ => rfl) (h.notify callback payload)
      dispatch := fun hreceiver => absurd hreceiver hmode
      enter := fun span tags => Traced.Charges.free (h.enter span tags)
      exit := fun span => Traced.Charges.free (h.exit span)
      metric := fun name value tags => Traced.Charges.free (h.metric name value tags) }
  exact execute_obeys (Traced.Charges.composes _ _ _) hcalls fun contract _ _ _ =>
    ⟨fun spec _ c => Traced.Charges.call (fun _ => rfl) (h.storage.read spec c),
      fun spec _ payload c => Traced.Charges.call (fun _ => rfl) (h.storage.write spec payload c)⟩

/-- A run has at most the effects of one plan. -/
theorem length_effects_le (r : ServiceRunner σ P) (raw : RawMessage) (s : σ) :
    ((r.execute raw s).trace.filterMap Event.effect?).length ≤ 44 := by
  have hordered : Ordered r raw (r.execute raw s).trace := by
    rcases r.execute_cases raw s with ⟨e, s', hrun⟩ | ⟨s₀, s', reply, hrun⟩
    · rw [hrun]
      exact Ordered.silent rfl
    · rw [hrun]
      exact (branch_ordered r raw s₀).surround [r.entered (.ok ())]
        (by simp [entered, Event.effect?]) (by simp [exited, Event.effect?])
  rcases hordered with hsilent | ⟨contract, hprefix, -⟩
  · rw [List.filterMap_eq_nil_iff.mpr hsilent]
    exact Nat.zero_le _
  · exact hprefix.length_le.trans (length_plan_le contract.toContractFields)

end ServiceRunner

/-- The adapters that store, over clients each call of which is one request; a file system makes
none. -/
inductive RequestingStorage (requests : σ → Nat) : StoragePort σ → Prop
  | gcs {client : GcsClient σ} (h : client.Requests requests) :
    RequestingStorage requests (GcsStorage.port client)
  | http {h : HttpFetchStorage σ} (hclient : h.client.Requests requests) :
    RequestingStorage requests h.port
  | localfs {fs : FileSystem σ} (h : fs.RequestsNothing requests) (root : Option PosixPath) :
    RequestingStorage requests (LocalFsStorage.port fs root)
  | inline : RequestingStorage requests (inlineStorage σ)

theorem RequestingStorage.costs {storage : StoragePort σ}
    (h : RequestingStorage requests storage) : storage.Costs requests 3 := by
  cases h with
  | gcs h => exact GcsStorage.costs h
  | http hclient => exact HttpFetchStorage.costs hclient
  | localfs h root =>
    have hcosts := LocalFsStorage.costs h root
    exact ⟨fun spec c => (hcosts.read spec c).mono (Nat.zero_le 3),
      fun spec payload c => (hcosts.write spec payload c).mono (Nat.zero_le 3)⟩
  | inline => exact inlineStorage_costs 3

/-- A worker of the package's adapters: Secret Manager, a storage put together from adapters, the
JWT notifier and an HTTP backend, over clients whose calls are one request each. Its other ports
make none. -/
structure ServiceRunner.Networked (r : ServiceRunner σ P) (requests : σ → Nat) : Prop where
  secrets : ∃ a : GoogleSecretManagerAdapter σ, r.secrets = a.port ∧
    ∀ name, Op.Costs requests 1 (a.accessSecretVersion name)
  storage : ∃ codecs, Assembled codecs (RequestingStorage requests) r.storage
  compute : ∃ b : HttpComputeBackend σ P, r.compute = b.port ∧ b.client.Requests requests
  webhook : ∃ n : JwtWebhookNotifier σ, r.webhook = n.port ∧ n.client.Requests requests
  decode : ∀ raw, Op.Costs requests 0 (r.message.decode raw)
  authorize : ∀ uri identity, Op.Costs requests 0 (r.authorizer.authorize uri identity)
  now : Op.Costs requests 0 r.clock.now
  enter : ∀ span tags, Op.Costs requests 0 (r.observability.enter span tags)
  exit : ∀ span, Op.Costs requests 0 (r.observability.exit span)
  metric : ∀ name value tags, Op.Costs requests 0 (r.observability.metric name value tags)

theorem ServiceRunner.Networked.effectsCost {r : ServiceRunner σ P} (h : r.Networked requests) :
    r.EffectsCost requests 3 where
  resolve ref := by
    obtain ⟨a, ha, haccess⟩ := h.secrets
    rw [ha]
    exact GoogleSecretManagerAdapter.resolve_costs haccess ref
  storage := by
    obtain ⟨codecs, hstorage⟩ := h.storage
    exact hstorage.costs fun _ => RequestingStorage.costs
  run inputs parameters context := by
    obtain ⟨b, hb, hclient⟩ := h.compute
    rw [hb]
    exact HttpComputeBackend.costs hclient inputs parameters context
  notify callback payload := by
    obtain ⟨n, hn, hclient⟩ := h.webhook
    rw [hn]
    exact JwtWebhookNotifier.costs hclient callback payload
  decode := h.decode
  authorize := h.authorize
  now := h.now
  enter := h.enter
  exit := h.exit
  metric := h.metric

/-- **A run that serves makes at most three requests for each of its effects, of which there are
at most 44.** -/
theorem requests_bounded [Pydantic] [JsonText] {r : ServiceRunner σ P} (h : r.Networked requests)
    (hmode : r.mode ≠ .receiver) (raw : RawMessage) (s : σ) :
    requests (r.execute raw s).world ≤
        requests s + 3 * ((r.execute raw s).trace.filterMap Event.effect?).length ∧
      requests (r.execute raw s).world ≤ requests s + 132 := by
  have hcharged := ServiceRunner.execute_charges h.effectsCost hmode raw s
  have heffects := r.length_effects_le raw s
  exact ⟨hcharged, by omega⟩

end

/-! ## A worker whose clients all fail -/

namespace Sample

/-- A request that is counted and answered with a 503. -/
def failing {α : Type} (cls : ExceptionClass) : PyOp Nat α := fun count =>
  (.error (.raised cls "503"), count + 1)

/-- An HTTP client that never connects. -/
def deafHttpClient : HttpClient Nat where
  get _ _ _ := failing .httpxConnectError
  post _ _ _ _ := failing .httpxConnectError

/-- A Cloud Storage client that is never available. -/
def deafGcsClient : GcsClient Nat where
  bucket _ := .ok ()
  downloadAsBytes _ _ := failing .googleServiceUnavailable
  uploadFromString _ _ _ := failing .googleServiceUnavailable

/-- A file system without files. -/
def noFiles : FileSystem Nat where
  pathExists _ := pure false
  readBytes _ := Op.fail (.raised .osError "no such file")
  mkdir _ := Op.fail (.raised .osError "read-only file system")
  writeBytes _ _ := Op.fail (.raised .osError "read-only file system")

theorem noFiles_requestsNothing : noFiles.RequestsNothing fun count => count where
  pathExists _ _ := Nat.le_refl _
  readBytes _ _ := Nat.le_refl _
  mkdir _ _ := Nat.le_refl _
  writeBytes _ _ _ := Nat.le_refl _

/-- A worker over these clients, on the contract of the factories. -/
def deafWorker [UnicodeData] : ServiceRunner Nat OpaqueParameters where
  contractType := ContractType.opaqueService
  storage := CompositeStorage.port ⟨(Dict.empty.set "gs" (GcsStorage.port deafGcsClient)).set "file"
    (LocalFsStorage.port noFiles none)⟩
  message := ⟨fun _ => pure contract⟩
  webhook := JwtWebhookNotifier.port
    ⟨encodeUtf8 "k", deafHttpClient, .finite 15, fun _ _ => .ok "jwt", id⟩
  compute := HttpComputeBackend.port
    ⟨"https://compute", deafHttpClient, .finite 600, {"timeseries"}, ∅, {"result_json"},
      fun p => .obj p.entries⟩
  secrets := GoogleSecretManagerAdapter.port ⟨"p", fun _ => failing .googleServiceUnavailable⟩
  authorizer := allowAllPolicy _
  observability := nullObservability _
  clock := frozenClock _ now
  jobDispatcher := ⟨fun _ _ requestId => pure ⟨"job", requestId⟩⟩
  schemeAllowlist := ⟨{"gs"}⟩
  mode := .worker
  workerJobName := none

theorem failing_costs {α : Type} (cls : ExceptionClass) :
    Op.Costs (fun count => count) 1 (failing cls : PyOp Nat α) := fun _ => Nat.le_refl _

theorem deafHttpClient_requests : deafHttpClient.Requests fun count => count where
  get _ _ _ := failing_costs _
  post _ _ _ _ := failing_costs _

theorem deafWorker_networked [UnicodeData] : deafWorker.Networked fun count => count where
  secrets := ⟨_, rfl, fun _ => failing_costs _⟩
  storage := by
    refine ⟨codecs, .composite fun scheme adapter hget => ?_⟩
    rw [Dict.get?_set, Dict.get?_set] at hget
    split at hget
    · obtain rfl := Option.some.inj hget
      exact .plain (.localfs noFiles_requestsNothing none)
    · split at hget
      · obtain rfl := Option.some.inj hget
        exact .plain (.gcs ⟨fun _ _ => failing_costs _, fun _ _ _ => failing_costs _⟩)
      · exact absurd hget.symm (Option.some_ne_none _)
  compute := ⟨_, rfl, deafHttpClient_requests⟩
  webhook := ⟨_, rfl, deafHttpClient_requests⟩
  decode _ _ := Nat.le_refl _
  authorize _ _ _ := Nat.le_refl _
  now _ := Nat.le_refl _
  enter _ _ _ := Nat.le_refl _
  exit _ _ := Nat.le_refl _
  metric _ _ _ _ := Nat.le_refl _

end Sample

section

attribute [local instance] UnicodeData.ascii Sample.pydantic Sample.jsonText

/-- A run against clients that fail whatever they are asked. -/
theorem requests_bounded_sample : (Sample.deafWorker.execute Sample.raw 0).world ≤ 132 := by
  have hbounded := requests_bounded Sample.deafWorker_networked (by decide) Sample.raw 0
  rw [Nat.zero_add] at hbounded
  exact hbounded.2

end

end Grabatus
