import Grabatus.Receiver.App
import Grabatus.Receiver.Confined
import Grabatus.Receiver.Deliveries
import Grabatus.Receiver.Handover
import Grabatus.Runner.Tenants

/-!
# What a receiver lets happen

Over `receiver/cli.py`, `receiver/runner.py`, `__main__.py` and `runner/runner.py`. A
`grabatus-receiver` process, the executions Cloud Run starts for it, and the workers that run on
them. Bodies are delivered in any order and any number of times, calls of the Jobs API fail or
lose their responses, and every execution may be run by a worker, now or later, once or often.

* **The environment bounds what is started** (`started_permitted`): every execution is one that a
  delivered body asks for and the variables of the process permit; and a delivery that is answered
  `ok` started it anew.
* **The receiver's policy protects the objects, whatever its workers check**
  (`guarded_by_receiver`): a worker reads the contract the receiver authorized, so it reaches
  nothing but objects of that contract's identity.

Out of scope: two runs at the same time; deliveries and workers take turns here.
-/

namespace Grabatus

open Grabatus.Lib Grabatus.Lib.Traced Grabatus.Python

variable {σ ν ι : Type} {P : ι → Type}

/-! ## The clients -/

/-- A call of the Jobs API starts its execution, or none; when it returns, it started it. -/
structure JobsClient.Starts (client : JobsClient σ) (started : σ → List RunJobRequest) : Prop where
  connect : Op.Keeps started client.connect
  runJob : ∀ request s, started (client.runJob request s).2 = started s ∨
    started (client.runJob request s).2 = started s ++ [request]
  returned : ∀ request s name, (client.runJob request s).1 = .ok name →
    started (client.runJob request s).2 = started s ++ [request]

/-- The telemetry leaves a view alone. -/
structure ObservabilityPort.Keeps (observability : ObservabilityPort σ) (view : σ → ν) : Prop where
  enter : ∀ span tags, Op.Keeps view (observability.enter span tags)
  exit : ∀ span, Op.Keeps view (observability.exit span)
  metric : ∀ name value tags, Op.Keeps view (observability.metric name value tags)

/-- Telemetry that leaves a view alone leaves every part of it alone. -/
theorem ObservabilityPort.Keeps.comp {μ : Type} {observability : ObservabilityPort σ} {view : σ → ν}
    (h : observability.Keeps view) (g : ν → μ) : observability.Keeps fun s => g (view s) where
  enter := fun span tags => (h.enter span tags).comp g
  exit := fun span => (h.exit span).comp g
  metric := fun name value tags => (h.metric name value tags).comp g

/-- What is started between `s` and `s'` is the request, once or more often or not at all. -/
def StartsOnly (started : σ → List RunJobRequest) (request : RunJobRequest) (s s' : σ) : Prop :=
  ∃ n, started s' = started s ++ List.replicate n request

theorem StartsOnly.refl (started : σ → List RunJobRequest) (request : RunJobRequest) (s : σ) :
    StartsOnly started request s s := ⟨0, (List.append_nil _).symm⟩

theorem StartsOnly.trans {started : σ → List RunJobRequest} {request : RunJobRequest}
    {s s' s'' : σ} (h : StartsOnly started request s s') (h' : StartsOnly started request s' s'') :
    StartsOnly started request s s'' := by
  obtain ⟨n, hn⟩ := h
  obtain ⟨m, hm⟩ := h'
  exact ⟨n + m, by rw [hm, hn, List.append_assoc, List.replicate_append_replicate]⟩

/-- One execution of the request, or none. -/
theorem StartsOnly.of_one {started : σ → List RunJobRequest} {request : RunJobRequest} {s s' : σ}
    (h : started s' = started s ∨ started s' = started s ++ [request]) :
    StartsOnly started request s s' := by
  rcases h with hnone | hone
  · exact ⟨0, by rw [hnone, List.replicate_zero, List.append_nil]⟩
  · exact ⟨1, hone⟩

section

variable [UnicodeData] {client : JobsClient σ} {started : σ → List RunJobRequest}
  {d : CloudRunJobsDispatcher σ} {jobName text : String} {requestId : UUID}

omit [UnicodeData] in
theorem JobsClient.Starts.dispatcher (h : d.client.Starts started) : d.Starts started :=
  ⟨h.connect, h.runJob⟩

/-- **A dispatch starts executions of its request only**, however often it is retried. -/
theorem JobsClient.Starts.startsOnly_dispatch (h : d.client.Starts started) (s : σ) :
    StartsOnly started (d.request jobName text requestId) s
      (d.dispatch jobName (encodeUtf8 text) requestId s).2 := by
  have hclosed : Op.Closed (ε := PyException) fun _ op =>
      Op.Moves (StartsOnly started (d.request jobName text requestId)) op :=
    Op.Closed.moves (StartsOnly.refl started _) StartsOnly.trans
  refine d.dispatch_closed hclosed (fun s => StartsOnly.of_one (.inl (h.connect s)))
    (fun text' htext s => ?_) s
  rw [decodeStrict_encodeUtf8] at htext
  obtain rfl := Except.ok.inj htext
  exact StartsOnly.of_one (h.runJob _ s)

omit [UnicodeData] in
/-- A call of the Jobs API that returns has started its execution. -/
theorem JobsClient.Starts.started_of_runJob (h : d.client.Starts started) {request : RunJobRequest}
    {s s' : σ} {name : String} (hrun : d.runJob request s = (.ok name, s')) :
    started s' = started s ++ [request] := by
  unfold CloudRunJobsDispatcher.runJob at hrun
  rw [Op.run_bind] at hrun
  have hconnected := h.connect s
  rcases hconnect : d.client.connect s with ⟨e | ⟨⟩, s₁⟩
  · rw [hconnect] at hrun
    exact absurd hrun nofun
  · rw [hconnect] at hrun hconnected
    have hrun : d.client.runJob request s₁ = (.ok name, s') := hrun
    have hstarted := h.returned request s₁ name (by rw [hrun])
    rw [hrun] at hstarted
    exact hstarted.trans (congrArg (· ++ [request]) hconnected)

/-- **A dispatch that returns has started its execution**, after the attempts that failed. -/
theorem JobsClient.Starts.started_of_dispatch (h : d.client.Starts started) {s s' : σ}
    {dispatched : DispatchedJob}
    (hdispatch : d.dispatch jobName (encodeUtf8 text) requestId s = (.ok dispatched, s')) :
    ∃ n, started s' = started s ++ List.replicate (n + 1) (d.request jobName text requestId) := by
  have hattempt : ∀ s₁, StartsOnly started (d.request jobName text requestId) s s₁ →
      StartsOnly started (d.request jobName text requestId) s
          (d.attempt jobName (encodeUtf8 text) requestId s₁).2 ∧
        ∀ a, (d.attempt jobName (encodeUtf8 text) requestId s₁).1 = .ok a →
          ∃ n, started (d.attempt jobName (encodeUtf8 text) requestId s₁).2 =
            started s ++ List.replicate (n + 1) (d.request jobName text requestId) := by
    intro s₁ hbefore
    rw [d.attempt_of_text]
    refine ⟨hbefore.trans (StartsOnly.of_one (h.dispatcher.started_runJob _ s₁)), fun a ha => ?_⟩
    rcases hrun : d.runJob (d.request jobName text requestId) s₁ with ⟨e | name, s₂⟩
    · rw [hrun] at ha
      exact absurd ha nofun
    · obtain ⟨n, hn⟩ := hbefore
      refine ⟨n, (h.started_of_runJob hrun).trans ?_⟩
      rw [hn, List.append_assoc, List.replicate_succ']
  have hlast : ∀ a, (d.dispatch jobName (encodeUtf8 text) requestId s).1 = .ok a →
      ∃ n, started (d.dispatch jobName (encodeUtf8 text) requestId s).2 =
        started s ++ List.replicate (n + 1) (d.request jobName text requestId) :=
    (Op.retry_rule (P := StartsOnly started (d.request jobName text requestId) s)
      (Q := fun r s' => StartsOnly started (d.request jobName text requestId) s s' ∧
        ∀ a, r = .ok a → ∃ n, started s' =
          started s ++ List.replicate (n + 1) (d.request jobName text requestId))
      hattempt (fun _ _ _ hQ => hQ.1) 2 s (StartsOnly.refl started _ s)).2
  rw [hdispatch] at hlast
  exact hlast dispatched rfl

end

/-! ## What the environment permits -/

section

variable [UnicodeData] [Pydantic] [JsonText]

/-- **The execution a body asks for, as the variables of the process permit it**: the body holds
the contract, every URI of it has a scheme that is allowed and is authorized under the bucket
prefix, and the job is the one the registry names for its service. -/
structure Permits (environ : String → Option String) (raw : RawMessage)
    (contract : OpaqueServiceContract) (request : RunJobRequest) : Prop where
  reads : ∃ document, PubSubMessagePort.decode raw = .ok document ∧
    Steps.validate document ContractType.opaqueService = .ok contract
  schemes : ∀ uri ∈ Steps.contractUris contract.toContractFields, ∃ parsed,
    parseUri uri = .ok parsed ∧ parsed.scheme ∈ (Settings.allowedSchemesOf environ).map lower
  authorized : ∀ uri ∈ Steps.contractUris contract.toContractFields,
    TenantPrefixPolicy.authorize ⟨Settings.bucketPrefixOf environ, true⟩ uri contract.identity =
      .ok ()
  job : ∃ projectId registry job, environ "GBT_GCP_PROJECT" = some projectId ∧
    environ "GBT_SERVICE_REGISTRY" = some registry ∧
      (contract.service.name.val, job) ∈ ServiceRegistry.entries registry ∧
        request.name = "projects/" ++ projectId ++ "/locations/" ++
          Settings.gcpRegionOf environ ++ "/jobs/" ++ job
  env : ∃ text, JsonText.dumps (.obj contract.dumpObject) = .ok text ∧
    request.env =
      [("GBT_JOB_PAYLOAD", text), ("GBT_JOB_REQUEST_ID", contract.envelope.requestId.str)]

namespace SharedReceiverRunner

/-- A delivery that is answered `ok` was dispatched. -/
theorem dispatched_of_status_ok {r : SharedReceiverRunner σ} {raw : RawMessage} {s : σ}
    {res : ReceiverExecutionResult} (hres : (r.execute raw s).result = .ok res)
    (hok : res.status = .ok) :
    ∃ s₀ contract job s₁ payload dispatched s₂, r.Enters s s₀ ∧
      r.Accepted raw s₀ contract job s₁ ∧ contractBytes contract = .ok payload ∧
      r.jobDispatcher.dispatch job payload contract.envelope.requestId s₁ =
        (.ok dispatched, s₂) ∧ res.requestId = contract.envelope.requestId := by
  rcases r.execute_cases raw s with ⟨e, s', -, hrun⟩ | ⟨s₀, s', reply, henters, hrun⟩
  · rw [hrun] at hres
    exact absurd hres nofun
  · have hblock : (Traced.handle (r.tryBlock raw) r.exceptServiceError s₀).result = .ok res := by
      rw [hrun] at hres
      rcases reply with e | ⟨⟩
      · exact absurd hres nofun
      · exact hres
    obtain ⟨hends, hcalls⟩ := r.block_ends raw s₀
    rcases hends.of_ok hblock with ⟨contract', s₁', call, d, hreads, hlist, hreply, rfl⟩ |
      ⟨rid, error, -, -, rfl⟩
    · rcases hcalls with ⟨hnone, -⟩ |
        ⟨contract, job, s₁, payload, reply', s₂, haccepted, hdump, hdispatch, hcalled⟩
      · rw [hnone] at hlist
        exact absurd hlist nofun
      · rw [hlist] at hcalled
        obtain rfl := (List.cons.inj hcalled).1
        obtain rfl : reply' = .ok d := hreply
        obtain ⟨s₃, hreads', -, -⟩ := id haccepted
        obtain ⟨rfl, -⟩ := hreads.unique hreads'
        exact ⟨s₀, contract', job, s₁, payload, d, s₂, henters, haccepted, hdump, hdispatch, rfl⟩
    · exact absurd hok nofun

end SharedReceiverRunner

variable {environ : String → Option String} {client : JobsClient σ}
  {observability : ObservabilityPort σ} {clock : ClockPort σ} {q : SharedReceiverRunner σ}
  {started : σ → List RunJobRequest} {raw : RawMessage} {s : σ}

omit [Pydantic] [JsonText] in
/-- The registry of a process has the entries of its variable. -/
theorem Settings.mem_entries_of_resolved {registry : ServiceRegistry} {name job : String}
    (h : Settings.serviceRegistryOf environ = .ok registry)
    (hjob : registry.byName.get? name = some job) :
    ∃ text, environ "GBT_SERVICE_REGISTRY" = some text ∧
      (name, job) ∈ ServiceRegistry.entries text := by
  unfold Settings.serviceRegistryOf at h
  rcases htext : environ "GBT_SERVICE_REGISTRY" with - | text
  · rw [htext] at h
    obtain rfl := Except.ok.inj h
    exact absurd hjob nofun
  · rw [htext] at h
    refine ⟨text, rfl, ?_⟩
    rw [← (ServiceRegistry.fromEnvString_eq_ok.mp h).2]
    exact Dict.mem_entries_of_get? hjob

/-- The dispatcher of a process. -/
def receiverDispatcher (environ : String → Option String) (client : JobsClient σ)
    (projectId : String) : CloudRunJobsDispatcher σ where
  projectId
  region := Settings.gcpRegionOf environ
  client

/-- **What a process accepts, its environment permits.** -/
theorem permits_of_accepted (hboot : receiverMain environ client observability clock = .ok q)
    {contract : OpaqueServiceContract} {job : String} {s' : σ}
    (haccepted : q.Accepted raw s contract job s') {text : String}
    (htext : JsonText.dumps (.obj contract.dumpObject) = .ok text) :
    ∃ projectId, q.jobDispatcher = (receiverDispatcher environ client projectId).port ∧
      Permits environ raw contract ((receiverDispatcher environ client projectId).request job
        text contract.envelope.requestId) := by
  obtain ⟨projectId, registry, hproject, hregistry, rfl⟩ := receiverMain_eq_ok hboot
  obtain ⟨s₁, ⟨document, hdecode, hvalidate⟩, hpass, hjob⟩ := haccepted
  obtain ⟨services, hservices, hentry⟩ := Settings.mem_entries_of_resolved hregistry hjob
  refine ⟨projectId, rfl, ⟨document, (Prod.mk.inj hdecode).1, hvalidate⟩, fun uri huri => ?_,
    authorized_of_urisPass hpass, ⟨projectId, services, job, hproject, hservices, hentry, rfl⟩,
    text, htext, rfl⟩
  obtain ⟨parsed, hparsed, hscheme⟩ := SchemeAllowlist.check_eq_ok.mp (hpass.checks uri huri)
  exact ⟨parsed, hparsed, List.mem_toFinset.mp hscheme⟩

omit [Pydantic] in
theorem keepsStarted_of_boot (hboot : receiverMain environ client observability clock = .ok q)
    (htelemetry : observability.Keeps started) : q.KeepsStarted started := by
  obtain ⟨projectId, registry, -, -, rfl⟩ := receiverMain_eq_ok hboot
  exact ⟨fun _ _ => rfl, fun _ _ _ => rfl, htelemetry.enter, htelemetry.exit, htelemetry.metric⟩

/-- **A delivery starts what its body asks for and the environment permits**, or nothing. -/
theorem permitted_of_execute (hboot : receiverMain environ client observability clock = .ok q)
    (htelemetry : observability.Keeps started) (hjobs : client.Starts started) (raw : RawMessage)
    (s : σ) : ∀ request ∈ started (q.execute raw s).world,
      request ∈ started s ∨ ∃ contract, Permits environ raw contract request := by
  intro request hrequest
  rcases (keepsStarted_of_boot hboot htelemetry).started_execute raw s with ⟨-, hnone⟩ |
    ⟨s₀, contract, job, s₁, payload, -, haccepted, hdump, hbefore, hstarted⟩
  · exact .inl (hnone ▸ hrequest)
  · obtain ⟨-, text, htext, rfl⟩ := SharedReceiverRunner.contractBytes_eq_ok.mp hdump
    obtain ⟨projectId, hdispatcher, hpermits⟩ := permits_of_accepted hboot haccepted htext
    have hjobs : (receiverDispatcher environ client projectId).client.Starts started := hjobs
    obtain ⟨n, hn⟩ : StartsOnly started _ s₁
        ((receiverDispatcher environ client projectId).dispatch job (encodeUtf8 text)
          contract.envelope.requestId s₁).2 := hjobs.startsOnly_dispatch s₁
    rw [hdispatcher] at hstarted
    rw [hstarted.trans hn, hbefore] at hrequest
    rcases List.mem_append.mp hrequest with hearlier | hnew
    · exact .inl hearlier
    · obtain rfl := (List.mem_replicate.mp hnew).2
      exact .inr ⟨contract, hpermits⟩

/-- A delivery that is answered `ok` has started its execution. -/
theorem started_of_status_ok (hboot : receiverMain environ client observability clock = .ok q)
    (htelemetry : observability.Keeps started) (hjobs : client.Starts started)
    {res : ReceiverExecutionResult} (hres : (q.execute raw s).result = .ok res)
    (hok : res.status = .ok) :
    ∃ contract request n, Permits environ raw contract request ∧
      res.requestId = contract.envelope.requestId ∧
        started (q.execute raw s).world = started s ++ List.replicate (n + 1) request := by
  obtain ⟨s₀, contract, job, s₁, payload, dispatched, s₂, henters, haccepted, hdump, hdispatch,
    hid⟩ := SharedReceiverRunner.dispatched_of_status_ok hres hok
  obtain ⟨-, text, htext, rfl⟩ := SharedReceiverRunner.contractBytes_eq_ok.mp hdump
  obtain ⟨projectId, hdispatcher, hpermits⟩ := permits_of_accepted hboot haccepted htext
  have hjobs : (receiverDispatcher environ client projectId).client.Starts started := hjobs
  have hkeeps := keepsStarted_of_boot hboot htelemetry
  have hentered : started s₀ = started s := by
    rw [← hkeeps.enter "shared_receiver.execute" [] s]
    exact congrArg started (congrArg Prod.snd henters).symm
  have hstarted := hkeeps.started_of_accepted henters haccepted hdump
  rw [hdispatch] at hstarted
  rw [hdispatcher] at hdispatch
  obtain ⟨n, hn⟩ := hjobs.started_of_dispatch hdispatch
  refine ⟨contract, _, n, hpermits, hid, hstarted.trans (hn.trans ?_)⟩
  rw [hkeeps.of_accepted haccepted, hentered]

/-- **The environment of a receiver bounds what it starts.** Whatever is delivered, in whatever
order, every execution is one a delivered body asks for and the environment permits; and a delivery
that is answered `ok` starts its own execution, once or more often, and nothing else. -/
theorem started_permitted (hboot : receiverMain environ client observability clock = .ok q)
    (htelemetry : observability.Keeps started) (hjobs : client.Starts started)
    {delivers : RawMessage → Prop} {s s' : σ} (hinit : started s = [])
    (hrun : Relation.ReflTransGen (q.Happens started fun raw _ => delivers raw) s s') :
    (∀ request ∈ started s', ∃ raw contract, delivers raw ∧ Permits environ raw contract request) ∧
      ∀ raw res, (q.execute raw s').result = .ok res → res.status = .ok →
        ∃ contract request n, Permits environ raw contract request ∧
          res.requestId = contract.envelope.requestId ∧
            started (q.execute raw s').world = started s' ++ List.replicate (n + 1) request := by
  refine ⟨?_, fun raw res hres hok => started_of_status_ok hboot htelemetry hjobs hres hok⟩
  induction hrun with
  | refl => simp [hinit]
  | tail _ hstep ih =>
    intro request hrequest
    cases hstep with
    | delivered raw hdelivers =>
      rcases permitted_of_execute hboot htelemetry hjobs raw _ request hrequest with
        hearlier | ⟨contract, hpermits⟩
      · exact ih request hearlier
      · exact ⟨raw, contract, hdelivers, hpermits⟩
    | elsewhere hkeep => exact ih request (hkeep ▸ hrequest)

/-! ## Workers that check nothing -/

/-- A variable of the environment of an execution. -/
def RunJobRequest.getenv (request : RunJobRequest) (name : String) : Option String :=
  Dict.lookup name request.env

/-- A worker that decodes the JSON of its payload and stores through the package; its other ports
touch nothing that is seen. Nothing is said of its policy: it may pass every URI. -/
structure ServiceRunner.Unguarded {P : Type} (r : ServiceRunner σ P) (storage : GcsClient σ)
    (view : σ → ν) : Prop where
  json : r.message.DecodesJson
  storage : ∃ codecs, Assembled codecs (StorageAdapter storage) r.storage
  around : r.KeepsAround view

/-- The clients of a deployment keep to what they are for: the Jobs API starts executions and
touches no object, Cloud Storage touches one object at a time and starts nothing, and the telemetry
does neither. -/
structure Apart (jobs : JobsClient σ) (storage : GcsClient σ) (observability : ObservabilityPort σ)
    (started : σ → List RunJobRequest) (objects : σ → String × String → Option Bytes) : Prop where
  starts : jobs.Starts started
  connect : Op.Keeps objects jobs.connect
  runJob : ∀ request, Op.Keeps objects (jobs.runJob request)
  keepsOthers : storage.KeepsOthers objects
  download : ∀ bucket blob, Op.Keeps started (storage.downloadAsBytes bucket blob)
  upload : ∀ bucket blob payload, Op.Keeps started (storage.uploadFromString bucket blob payload)
  telemetry : observability.Keeps fun s => (started s, objects s)

/-- The body holds a contract of one of the identities, and its dump is read back. -/
def BringsOnly (only : Identity → Prop) (raw : RawMessage) : Prop :=
  ∀ document contract, PubSubMessagePort.decode raw = .ok document →
    Steps.validate document ContractType.opaqueService = .ok contract →
      SurvivesDump contract ∧ only contract.identity

/-- What happens in a deployment: a body is delivered to the receiver, an execution is run by a
worker, or something else goes on that starts nothing and leaves the view alone. -/
inductive Works (q : SharedReceiverRunner σ) (workers : ∀ i, ServiceRunner σ (P i))
    (started : σ → List RunJobRequest) (delivers : RawMessage → Prop) (view : σ → ν) : σ → σ → Prop
  | delivered (raw : RawMessage) {s : σ} (hdelivers : delivers raw) :
    Works q workers started delivers view s (q.execute raw s).world
  | worked (i : ι) {request : RunJobRequest} {s : σ} (hstarted : request ∈ started s) :
    Works q workers started delivers view s
      (runWorkerOnce (request.getenv "GBT_JOB_PAYLOAD") (workers i) s).world
  | elsewhere {s s' : σ} (hstarted : started s' = started s) (hkeep : view s' = view s) :
    Works q workers started delivers view s s'

variable {storage : GcsClient σ} {objects : σ → String × String → Option Bytes}
  {workers : ∀ i, ServiceRunner σ (P i)} {only : Identity → Prop} {object : String × String}

omit [Pydantic] in
/-- The receiver touches no object. -/
theorem receiver_keepsAround (hboot : receiverMain environ client observability clock = .ok q)
    (hapart : Apart client storage observability started objects) : q.KeepsAround objects := by
  obtain ⟨projectId, registry, -, -, rfl⟩ := receiverMain_eq_ok hboot
  have htelemetry : observability.Keeps objects := hapart.telemetry.comp Prod.snd
  exact
    { decode := fun _ _ => rfl
      authorize := fun _ _ _ => rfl
      dispatch := fun job payload requestId =>
        CloudRunJobsDispatcher.dispatch_closed ⟨projectId, Settings.gcpRegionOf environ, client⟩
          (Op.Closed.keeps objects) hapart.connect fun _ _ => hapart.runJob _
      enter := htelemetry.enter
      exit := htelemetry.exit
      metric := htelemetry.metric }

/-- **What a worker reads from a payload is what the receiver authorized**, up to credentials. -/
theorem authorized_of_reads {P : Type} {r : ServiceRunner σ P} (hjson : r.message.DecodesJson)
    {contract : OpaqueServiceContract} {request : RunJobRequest}
    (hpermits : Permits environ raw contract request) (hsurvives : SurvivesDump contract)
    {text : String} (htext : JsonText.dumps (.obj contract.dumpObject) = .ok text)
    {contract' : BaseServiceContract P} (hreads : r.Reads ⟨encodeUtf8 text⟩ contract') :
    contract'.identity = contract.identity ∧
      ∀ uri ∈ Steps.contractUris contract'.toContractFields,
        TenantPrefixPolicy.authorize ⟨Settings.bucketPrefixOf environ, true⟩ uri
          contract'.identity = .ok () := by
  obtain ⟨s, s', t, hreceive⟩ := hreads
  rw [ServiceRunner.receive_of_decoded (hsurvives.decodes_text htext hjson s)] at hreceive
  obtain ⟨-, hread⟩ := Steps.validate_eq_ok.mp (Outcome.mk.inj hreceive).1
  obtain ⟨hidentity, hin, hout⟩ := uris_of_validate_dump hsurvives.leaves hread
  have huris : Steps.contractUris contract'.toContractFields =
      Steps.contractUris contract.toContractFields := by
    unfold Steps.contractUris
    rw [hin, hout]
  refine ⟨hidentity, fun uri huri => ?_⟩
  rw [hidentity]
  exact hpermits.authorized uri (huris ▸ huri)

/-- A worker on an execution starts nothing, and leaves an object alone that the identity of the
contract does not own. -/
theorem worker_keeps {P : Type} {r : ServiceRunner σ P} (hcolon : KeepsColon)
    (hapart : Apart client storage observability started objects)
    (hworker : r.Unguarded storage fun s => (started s, objects s))
    {contract : OpaqueServiceContract} {request : RunJobRequest}
    (hpermits : Permits environ raw contract request) (hsurvives : SurvivesDump contract)
    (hother : ¬ TenantPrefixPolicy.Owns ⟨Settings.bucketPrefixOf environ, true⟩ contract.identity
      object) (s : σ) :
    started (runWorkerOnce (request.getenv "GBT_JOB_PAYLOAD") r s).world = started s ∧
      objects (runWorkerOnce (request.getenv "GBT_JOB_PAYLOAD") r s).world object =
        objects s object := by
  obtain ⟨text, htext, henv⟩ := hpermits.env
  have hpayload : request.getenv "GBT_JOB_PAYLOAD" = some text := by
    unfold RunJobRequest.getenv
    rw [henv]
    rfl
  have hkept : (fun s => (started s, objects s object))
      (r.execute ⟨encodeUtf8 text⟩ s).world = (started s, objects s object) := by
    refine ServiceRunner.execute_keeps (hworker.around.comp fun seen => (seen.1, seen.2 object))
      (fun contract' hreads s₁ _ => ?_) s
    obtain ⟨hidentity, hauth⟩ := authorized_of_reads hworker.json hpermits hsurvives htext hreads
    obtain ⟨codecs, hstorage⟩ := hworker.storage
    refine ServiceRunner.keepsAt_of_authorized hstorage hcolon rfl hauth
      (fun bucket blob _ s => ?_) fun bucket blob payload howns s => ?_
    · exact Prod.ext (hapart.download bucket blob s)
        (congrFun (hapart.keepsOthers.download bucket blob s) object)
    · refine Prod.ext (hapart.upload bucket blob payload s)
        (hapart.keepsOthers.upload bucket blob payload object ?_ s)
      rintro rfl
      exact hother (hidentity ▸ howns)
  rw [hpayload, runWorkerOnce_run]
  exact Prod.mk.inj hkept

/-- One step of a deployment that delivers no contract of an owner. -/
theorem guarded_step (hcolon : KeepsColon)
    (hboot : receiverMain environ client observability clock = .ok q)
    (hapart : Apart client storage observability started objects)
    (hworkers : ∀ i, (workers i).Unguarded storage fun s => (started s, objects s))
    (hnone : ∀ identity, only identity →
      ¬ TenantPrefixPolicy.Owns ⟨Settings.bucketPrefixOf environ, true⟩ identity object) {s s' : σ}
    (hbefore : ∀ request ∈ started s, ∃ raw contract, BringsOnly only raw ∧
      Permits environ raw contract request)
    (hstep : Works q workers started (BringsOnly only) (fun s => objects s object) s s') :
    (∀ request ∈ started s', ∃ raw contract, BringsOnly only raw ∧
      Permits environ raw contract request) ∧ objects s' object = objects s object := by
  cases hstep with
  | delivered raw hdelivers =>
    refine ⟨fun request hrequest => ?_, congrFun (SharedReceiverRunner.execute_keeps
      (receiver_keepsAround hboot hapart) raw s) object⟩
    have hstarted : observability.Keeps started := hapart.telemetry.comp Prod.fst
    rcases permitted_of_execute hboot hstarted hapart.starts raw s request hrequest with
      hearlier | ⟨contract, hpermits⟩
    · exact hbefore request hearlier
    · exact ⟨raw, contract, hdelivers, hpermits⟩
  | worked i hrequest =>
    obtain ⟨raw, contract, hdelivers, hpermits⟩ := hbefore _ hrequest
    obtain ⟨document, hdecode, hvalidate⟩ := hpermits.reads
    obtain ⟨hsurvives, honly⟩ := hdelivers document contract hdecode hvalidate
    obtain ⟨hstarted, hobject⟩ := worker_keeps hcolon hapart (hworkers i) hpermits hsurvives
      (hnone _ honly) s
    exact ⟨hstarted ▸ hbefore, hobject⟩
  | elsewhere hstarted hkeep => exact ⟨hstarted ▸ hbefore, hkeep⟩

/-- **The receiver's policy protects an object, whatever the workers check**: a deployment that was
delivered no contract of an identity that owns it left it as it was; and only the same user, in a
related tenant, owns what an owner does. -/
theorem guarded_by_receiver (hcolon : KeepsColon)
    (hboot : receiverMain environ client observability clock = .ok q)
    (hapart : Apart client storage observability started objects)
    (hworkers : ∀ i, (workers i).Unguarded storage fun s => (started s, objects s)) {s s' : σ}
    (hinit : started s = [])
    (hrun : Relation.ReflTransGen
      (Works q workers started (BringsOnly only) fun s => objects s object) s s') :
    ((∀ identity, only identity →
        ¬ TenantPrefixPolicy.Owns ⟨Settings.bucketPrefixOf environ, true⟩ identity object) →
      objects s' object = objects s object) ∧
    ∀ owner, TenantPrefixPolicy.Owns ⟨Settings.bucketPrefixOf environ, true⟩ owner object →
      (∀ identity, only identity → ¬ SameOwner owner identity) →
        objects s' object = objects s object := by
  have hkept : (∀ identity, only identity →
      ¬ TenantPrefixPolicy.Owns ⟨Settings.bucketPrefixOf environ, true⟩ identity object) →
        (∀ request ∈ started s', ∃ raw contract, BringsOnly only raw ∧
          Permits environ raw contract request) ∧ objects s' object = objects s object :=
    fun hnone => by
    induction hrun with
    | refl => simp [hinit]
    | tail _ hstep ih =>
      obtain ⟨hstarted, hobject⟩ := guarded_step hcolon hboot hapart hworkers hnone ih.1 hstep
      exact ⟨hstarted, hobject.trans ih.2⟩
  refine ⟨fun hnone => (hkept hnone).2, fun owner howner hothers => ?_⟩
  exact (hkept fun identity honly howns => hothers identity honly
    (TenantPrefixPolicy.separated_of_owns howner howns)).2

end

/-- URIs that are allowed and authorized pass. -/
theorem urisPass_policy [UnicodeData] {p : TenantPrefixPolicy} {schemeAllowlist : SchemeAllowlist}
    {identity : Identity} {uris : List String}
    (h : ∀ uri ∈ uris, schemeAllowlist.check uri = .ok () ∧ p.authorize uri identity = .ok ())
    (s : σ) : Steps.UrisPass (p.port σ) schemeAllowlist identity uris s s := by
  induction uris with
  | nil => exact .nil s
  | cons uri uris ih =>
    obtain ⟨hcheck, hauth⟩ := h uri List.mem_cons_self
    exact .cons hcheck (congrArg (·, s) hauth) (ih fun u hu => h u (List.mem_cons_of_mem uri hu))

/-! ## A delivery and its worker -/

attribute [local instance] UnicodeData.ascii

namespace Sample

/-- The executions started so far, and the objects. -/
abbrev Platform : Type := List RunJobRequest × GcsObjects

/-- The Jobs API of the platform. -/
def platformJobs : JobsClient Platform where
  connect := pure ()
  runJob request s := (.ok "executions/1", (s.1 ++ [request], s.2))

/-- Its Cloud Storage. -/
def platformStorage : GcsClient Platform where
  bucket := memoryGcsClient.bucket
  downloadAsBytes bucket blob s :=
    ((memoryGcsClient.downloadAsBytes bucket blob s.2).1,
      (s.1, (memoryGcsClient.downloadAsBytes bucket blob s.2).2))
  uploadFromString bucket blob payload s :=
    ((memoryGcsClient.uploadFromString bucket blob payload s.2).1,
      (s.1, (memoryGcsClient.uploadFromString bucket blob payload s.2).2))

theorem platform_apart :
    Apart platformJobs platformStorage (nullObservability _) Prod.fst Prod.snd where
  starts := ⟨fun _ => rfl, fun _ _ => .inr rfl, fun _ _ _ _ => rfl⟩
  connect _ := rfl
  runJob _ _ := rfl
  keepsOthers :=
    { download := fun bucket blob s => memoryGcsClient_keepsOthers.download bucket blob s.2
      upload := fun bucket blob payload object hne s =>
        memoryGcsClient_keepsOthers.upload bucket blob payload object hne s.2 }
  download _ _ _ := rfl
  upload _ _ _ _ := rfl
  telemetry := ⟨fun _ _ _ => rfl, fun _ _ => rfl, fun _ _ _ _ => rfl⟩

/-- The telemetry starts nothing. -/
theorem platform_telemetry :
    (nullObservability Platform).Keeps (Prod.fst : Platform → List RunJobRequest) :=
  ⟨fun _ _ _ => rfl, fun _ _ => rfl, fun _ _ _ _ => rfl⟩

/-- The environment of the receiver. -/
def environ (name : String) : Option String :=
  Dict.lookup name [("GBT_GCP_PROJECT", "p"), ("GBT_SERVICE_REGISTRY", "sample:sample-worker")]

/-- The receiver that starts in it. -/
def platformReceiver [JsonText] : SharedReceiverRunner Platform where
  message := pubSubMessagePort _
  authorizer := TenantPrefixPolicy.port _ ⟨"gbt-storage", true⟩
  jobDispatcher := CloudRunJobsDispatcher.port ⟨"p", "us-east1", platformJobs⟩
  observability := nullObservability _
  clock := frozenClock _ now
  schemeAllowlist := SchemeAllowlist.ofList defaultAllowedSchemes
  registry := ⟨⟨[("sample", "sample-worker")], by decide⟩⟩
  mode := .sharedReceiver

theorem platform_boots [JsonText] :
    receiverMain environ platformJobs (nullObservability _) (frozenClock _ now) =
      .ok platformReceiver := by
  have hregistry : Settings.serviceRegistryOf environ =
      .ok ⟨⟨[("sample", "sample-worker")], by decide⟩⟩ := by
    have hplain : ∀ e ∈ [("sample", "sample-worker")], ServiceRegistry.PlainEntry e := by
      rintro e he
      obtain rfl := List.mem_singleton.mp he
      exact ⟨by decide, by decide, by decide, by decide, by decide, by decide, by decide⟩
    have htext : environ "GBT_SERVICE_REGISTRY" =
        some (ServiceRegistry.render [("sample", "sample-worker")]) := by decide
    unfold Settings.serviceRegistryOf
    rw [htext, Option.elim_some]
    exact ServiceRegistry.fromEnvString_render (by decide) hplain
  unfold receiverMain Settings.ofEnviron
  rw [hregistry]
  rfl

/-- A worker that passes every URI. -/
def trustingWorker [JsonText] : ServiceRunner Platform OpaqueParameters :=
  { workerOver platformStorage with
    message := inMemoryMessagePort _
    authorizer := allowAllPolicy _
    mode := .worker }

theorem trustingWorker_unguarded [JsonText] :
    trustingWorker.Unguarded platformStorage fun s => (s.1, s.2) where
  json := inMemoryMessagePort_decodesJson
  storage := (worker_tenanted platformStorage).storage
  around :=
    { worker_keepsAround platformStorage _ with
      decode := fun _ _ => rfl
      authorize := fun _ _ _ => rfl }

/-- What the receiver looks at in the contract. -/
def passes (contract : OpaqueServiceContract) : Bool :=
  (contract.identity.userId.val == "999") &&
    (Steps.contractUris contract.toContractFields).all fun uri =>
      ((SchemeAllowlist.ofList defaultAllowedSchemes).check uri).toOption == some () &&
        (TenantPrefixPolicy.authorize ⟨"gbt-storage", true⟩ uri contract.identity).toOption ==
          some ()

theorem passes_eq_true {contract : OpaqueServiceContract} (h : passes contract = true) :
    contract.identity.userId.val = "999" ∧
      ∀ uri ∈ Steps.contractUris contract.toContractFields,
        (SchemeAllowlist.ofList defaultAllowedSchemes).check uri = .ok () ∧
          TenantPrefixPolicy.authorize ⟨"gbt-storage", true⟩ uri contract.identity = .ok () := by
  have hok : ∀ {r : Except PyException Unit}, (r.toOption == some ()) = true → r = .ok () := by
    rintro (e | ⟨⟩) h
    · exact absurd h nofun
    · rfl
  obtain ⟨huser, huris⟩ := Bool.and_eq_true_iff.mp h
  refine ⟨eq_of_beq huser, fun uri huri => ?_⟩
  obtain ⟨hcheck, hauth⟩ := Bool.and_eq_true_iff.mp (List.all_eq_true.mp huris uri huri)
  exact ⟨hok hcheck, hok hauth⟩

/-- What the receiver accepts, it starts. -/
theorem platform_started [Pydantic] [JsonText] {raw : RawMessage} {s : Platform}
    {contract : OpaqueServiceContract} {job : String} {payload : Bytes}
    (haccepted : platformReceiver.Accepted raw s contract job s)
    (hdump : SharedReceiverRunner.contractBytes contract = .ok payload) :
    ∃ request, request ∈ (platformReceiver.execute raw s).world.1 := by
  have hkeeps := keepsStarted_of_boot platform_boots platform_telemetry
  obtain ⟨-, text, -, rfl⟩ := SharedReceiverRunner.contractBytes_eq_ok.mp hdump
  rw [hkeeps.started_of_accepted rfl haccepted hdump]
  refine ⟨(receiverDispatcher environ platformJobs "p").request job text
    contract.envelope.requestId, ?_⟩
  show _ ∈ (Op.retry _ 2 ((receiverDispatcher environ platformJobs "p").attempt job
    (encodeUtf8 _) _) s).2.1
  rw [Op.retry_done 2]
  · rw [CloudRunJobsDispatcher.attempt_of_text]
    exact List.mem_append_right _ List.mem_cons_self
  · rw [CloudRunJobsDispatcher.attempt_of_text]
    exact fun ⟨_, he, _⟩ => absurd he nofun

/-- **The receiver accepts the body of user 999**, and starts an execution for it. -/
theorem platform_delivery : letI := Leaves.pydantic []
    ∃ contract : OpaqueServiceContract,
      letI := Leaves.codedText (secretDocs plainRef contract)
      (∀ document contract', PubSubMessagePort.decode (secretRaw plainRef) = .ok document →
        Steps.validate document ContractType.opaqueService = .ok contract' →
          contract' = contract) ∧
      SurvivesDump contract ∧ contract.identity.userId.val = "999" ∧
        ∀ s, ∃ request, request ∈ (platformReceiver.execute (secretRaw plainRef) s).world.1 := by
  let _ := Leaves.pydantic []
  obtain ⟨contract, hvalid, hsuits, hdecode, hsurvives, payload, hdump, -⟩ :=
    secretContract_dispatched plainRef [("gsm", "key", "latest")] (by decide +kernel)
  let _ := Leaves.codedText (secretDocs plainRef contract)
  have hpasses : (Steps.validate (secretContract plainRef) ContractType.opaqueService).toOption.map
      passes = some true := by decide +kernel
  rw [hvalid] at hpasses
  obtain ⟨huser, huris⟩ := passes_eq_true (Option.some.inj hpasses)
  refine ⟨contract, fun document contract' hdocument hcontract' => ?_, hsurvives, huser,
    fun s => ?_⟩
  · obtain rfl := Except.ok.inj (hdecode.symm.trans hdocument)
    exact Except.ok.inj (hcontract'.symm.trans hvalid)
  · have haccepted :
      platformReceiver.Accepted (secretRaw plainRef) s contract "sample-worker" s := by
      refine ⟨s, ⟨_, pubSubMessagePort_decode hdecode s, hvalid⟩, urisPass_policy huris s, ?_⟩
      rw [hsuits.service]
      rfl
    exact platform_started haccepted hdump

end Sample

/-- The execution of a delivery is one the environment permits. -/
theorem started_permitted_sample : letI := Leaves.pydantic []
    ∃ contract : OpaqueServiceContract,
      letI := Leaves.codedText (Sample.secretDocs Sample.plainRef contract)
      ∃ request ∈ (Sample.platformReceiver.execute (Sample.secretRaw Sample.plainRef)
          ([], Sample.objects)).world.1,
        ∃ contract, Permits Sample.environ (Sample.secretRaw Sample.plainRef) contract request := by
  let _ := Leaves.pydantic []
  obtain ⟨contract, -, -, -, hstarts⟩ := Sample.platform_delivery
  let _ := Leaves.codedText (Sample.secretDocs Sample.plainRef contract)
  obtain ⟨request, hrequest⟩ := hstarts ([], Sample.objects)
  have hpermitted := started_permitted Sample.platform_boots Sample.platform_telemetry
    Sample.platform_apart.starts (s := ([], Sample.objects)) rfl
    (.single (.delivered (Sample.secretRaw Sample.plainRef) (Eq.refl _)))
  obtain ⟨_, contract', rfl, hpermits⟩ := hpermitted.1 request hrequest
  exact ⟨contract, request, hrequest, contract', hpermits⟩

/-- A worker that passes every URI runs an execution for user 999: an object of user 7 is as it
was. -/
theorem guarded_by_receiver_sample : letI := Leaves.pydantic []
    ∃ contract : OpaqueServiceContract,
      letI := Leaves.codedText (Sample.secretDocs Sample.plainRef contract)
      ∃ request ∈ (Sample.platformReceiver.execute (Sample.secretRaw Sample.plainRef)
          ([], Sample.objects)).world.1,
        (runWorkerOnce (request.getenv "GBT_JOB_PAYLOAD") Sample.trustingWorker
            (Sample.platformReceiver.execute (Sample.secretRaw Sample.plainRef)
              ([], Sample.objects)).world).world.2 ("gbt-storage-grabatus", "user_7/in.xlsx") =
          Sample.objects ("gbt-storage-grabatus", "user_7/in.xlsx") := by
  let _ := Leaves.pydantic []
  obtain ⟨contract, hread, hsurvives, huser, hstarts⟩ := Sample.platform_delivery
  let _ := Leaves.codedText (Sample.secretDocs Sample.plainRef contract)
  obtain ⟨request, hrequest⟩ := hstarts ([], Sample.objects)
  have hcolon : KeepsColon := fun _ h => h
  have hdelivers : BringsOnly (fun identity => identity.userId.val = "999")
      (Sample.secretRaw Sample.plainRef) := fun document contract' hdocument hcontract' => by
    rw [hread document contract' hdocument hcontract']
    exact ⟨hsurvives, huser⟩
  have hrun : Relation.ReflTransGen (Works Sample.platformReceiver
      (fun _ : Unit => Sample.trustingWorker) Prod.fst
      (BringsOnly fun identity => identity.userId.val = "999")
      fun s => s.2 ("gbt-storage-grabatus", "user_7/in.xlsx")) ([], Sample.objects) _ :=
    .tail (.single (.delivered _ hdelivers)) (.worked () hrequest)
  have hguarded := guarded_by_receiver hcolon Sample.platform_boots Sample.platform_apart
    (fun _ => Sample.trustingWorker_unguarded) rfl hrun
  refine ⟨contract, request, hrequest, hguarded.2 ⟨⟨"7", by decide⟩, ⟨"grabatus", by decide⟩⟩
    (by decide) fun identity honly hsame => ?_⟩
  have huser := congrArg Str.val hsame.1
  rw [honly] at huser
  exact absurd huser (by decide)

end Grabatus
