import Grabatus.Adapters.PubsubCodec
import Grabatus.Receiver.Runner
import Grabatus.Runner.InStep
import Grabatus.Runner.Roles
import Grabatus.Runner.Worker

/-!
# From the shared receiver to the worker

Over `receiver/runner.py`, `__main__.py` and `runner/runner.py`. The receiver validates a push
body with its parameters opaque and hands the dump of the contract to a job, whose worker reads it
again under its own contract type. `WorkerMatchesMonolith` says that nothing is lost on the way:
the worker does what a monolith on the original body does.

* **The dump reads as the document did when every credential is `UriSafe`** (`readAlike_dump`); a
  structured credential whose name or version holds a slash, a query or a fragment collapses to
  the URI of another reference, or of none.
* A contract of the readout protocol without the readout among its outputs is refused by every
  backend, before anything could tell the two runs apart (`Untaken`).
* **These are the only cases** (`worker_matches_iff`): over any other contract, a backend that
  takes its roles sees the worker resolve another secret (`probe`).
-/

namespace Grabatus

open Grabatus.Lib Grabatus.Lib.Traced Grabatus.Python

section

variable [UnicodeData] [Pydantic] {σ P : Type}

/-! ## Reading a document -/

/-- Under every contract type the two documents are the same contract, or both are refused. -/
def ReadAlike (document document' : JsonObject) : Prop :=
  ∀ (P : Type) (contractType : ContractType P), Alike SameKind Eq
    (Steps.validate document contractType) (Steps.validate document' contractType)

/-- **The dump of a contract reads as its document did** when the credentials are safe. -/
theorem readAlike_dump {document : JsonObject} {contract : OpaqueServiceContract}
    (hvalid : Steps.validate document ContractType.opaqueService = .ok contract)
    (hleaves : contract.toContractFields.LeavesSurvive)
    (hsafe : ∀ ref ∈ contract.credentials, ref.UriSafe) :
    ReadAlike contract.dumpObject document := by
  intro P contractType
  obtain ⟨hversion, hopaque⟩ := Steps.validate_eq_ok.mp hvalid
  have hversion' := Steps.versionSupported_dump contract
  have hsame : ∀ d : BaseServiceContract P,
      BaseServiceContract.validate contractType.validateParameters (.obj contract.dumpObject) =
          .ok d ↔
        BaseServiceContract.validate contractType.validateParameters (.obj document) = .ok d :=
    fun _ => validate_dump_iff hopaque hleaves hsafe
  by_cases hread : ∃ d : BaseServiceContract P,
    BaseServiceContract.validate contractType.validateParameters (.obj document) = .ok d
  · obtain ⟨d, hd⟩ := hread
    rw [Steps.validate_eq_ok.mpr ⟨hversion, hd⟩,
      Steps.validate_eq_ok.mpr ⟨hversion', (hsame d).mpr hd⟩]
    exact .ok rfl
  · obtain ⟨message, hmessage⟩ := Steps.validate_invalid hversion fun d hd => hread ⟨d, hd⟩
    obtain ⟨message', hmessage'⟩ :=
      Steps.validate_invalid hversion' fun d hd => hread ⟨d, (hsame d).mp hd⟩
    rw [hmessage, hmessage']
    exact .error (.service rfl)

/-! ## Contracts no backend takes -/

omit [Pydantic] in
/-- The readout protocol without the readout among the outputs. -/
def ContractFields.Untaken (c : ContractFields P) : Prop :=
  c.envelope.protocolVersion = readoutProtocolVersion ∧ readoutOutputRole ∉ c.outputRoles

omit [Pydantic] in
theorem ServiceRunner.check_of_untaken {r : ServiceRunner σ P} {contract : BaseServiceContract P}
    (h : contract.toContractFields.Untaken) (s : σ) :
    ∃ message, r.check contract s =
      ⟨.error (serviceError .invalidContractError message), s, []⟩ := by
  rcases hroles : r.checkRoleCompatibility contract with e | ⟨⟩
  · obtain ⟨message, rfl⟩ := checkRoleCompatibility_error hroles
    refine ⟨message, ?_⟩
    unfold check
    rw [hroles]
    exact Traced.run_bind_error _ (Traced.run_lift _ _)
  · have hfit := (checkRoleCompatibility_eq_ok.mp hroles).outputs
    have hreadout : readoutOutputRole ∈ contract.outputRoles.toFinset := by
      rw [hfit, h.1]
      exact Finset.mem_union_right _ (Finset.mem_singleton_self _)
    exact absurd (List.mem_toFinset.mp hreadout) h.2

/-- **Every runner refuses such a contract**, as an invalid one, before any effect. -/
theorem ServiceRunner.tryBlock_of_untaken {r : ServiceRunner σ P} {raw : RawMessage}
    {document : JsonObject} {s s' : σ} (hdecode : r.message.decode raw s = (.ok document, s'))
    (hversion : Steps.VersionSupported document)
    (huntaken : ∀ contract : BaseServiceContract P,
      BaseServiceContract.validate r.contractType.validateParameters (.obj document) =
        .ok contract → contract.toContractFields.Untaken) :
    ∃ rid message, r.tryBlock raw r.serve s =
      ⟨.error ⟨rid, serviceError .invalidContractError message⟩, s',
        [.decode raw (.ok document)]⟩ := by
  have hreceive := receive_of_decoded hdecode
  by_cases hread : ∃ contract : BaseServiceContract P,
    BaseServiceContract.validate r.contractType.validateParameters (.obj document) = .ok contract
  · obtain ⟨contract, hcontract⟩ := hread
    rw [Steps.validate_eq_ok.mpr ⟨hversion, hcontract⟩] at hreceive
    obtain ⟨message, hcheck⟩ := r.check_of_untaken (huntaken contract hcontract) s'
    have hserve : r.serve contract s' =
        ⟨.error (serviceError .invalidContractError message), s', []⟩ :=
      Traced.run_bind_error _ hcheck
    refine ⟨some contract.envelope.requestId, message, ?_⟩
    rw [tryBlock_read r.serve hreceive, hserve]
    rfl
  · obtain ⟨message, hinvalid⟩ :=
      Steps.validate_invalid hversion fun contract h => hread ⟨contract, h⟩
    rw [hinvalid] at hreceive
    exact ⟨none, message,
      Traced.run_bind_error _ (Traced.mapError_error.mpr ⟨_, rfl, hreceive⟩)⟩

/-! ## The two deployments -/

variable [JsonText]

omit [Pydantic] in
/-- A message port that JSON-decodes the raw bytes. -/
def MessagePort.DecodesJson (message : MessagePort σ) : Prop :=
  ∀ raw o, loadsUtf8 raw.payload = .ok (.obj o) → ∀ s, message.decode raw s = (.ok o, s)

omit [Pydantic] in
theorem inMemoryMessagePort_decodesJson : (inMemoryMessagePort σ).DecodesJson := by
  intro raw o h s
  show Op.ofExcept (InMemoryMessagePort.decode raw) s = _
  unfold InMemoryMessagePort.decode
  rw [h]
  rfl

/-- **A worker on the payload does what a monolith on the body does**, over any runner, behind the
same adapters: the platform sees the same of both, and they return alike. The worker's payload
reaches it as the text of `GBT_JOB_PAYLOAD`. -/
def WorkerMatchesMonolith (raw : RawMessage) (payload : Bytes) : Prop :=
  ∀ (σ P : Type) (r : ServiceRunner σ P) (same : σ → σ → Prop) (json : MessagePort σ)
    (text : String) (s s' : σ), r.TagsUnread same → json.DecodesJson → encodeUtf8 text = payload →
      same s s' →
        (runWorkerOnce (some text) (r.deployed .worker json) s).trace.filterMap Event.visible? =
            ((r.deployed .monolith (pubSubMessagePort σ)).execute raw s').trace.filterMap
              Event.visible? ∧
          Alike SameKind SeenAlike ((r.deployed .worker json).execute ⟨encodeUtf8 text⟩ s).result
            ((r.deployed .monolith (pubSubMessagePort σ)).execute raw s').result

/-- The leaf values of a contract survive dump and re-validation, and its JSON text, where there is
one, is read back. -/
structure SurvivesDump (contract : OpaqueServiceContract) : Prop where
  leaves : contract.toContractFields.LeavesSurvive
  text : ∀ text, JsonText.dumps (.obj contract.dumpObject) = .ok text →
    JsonText.loads text = .ok (.obj contract.dumpObject)

omit [Pydantic] in
theorem pubSubMessagePort_decode {raw : RawMessage} {document : JsonObject}
    (h : PubSubMessagePort.decode raw = .ok document) (s : σ) :
    (pubSubMessagePort σ).decode raw s = (.ok document, s) := by
  show Op.ofExcept (PubSubMessagePort.decode raw) s = _
  rw [h]
  rfl

/-- The text of the dump is read. -/
theorem SurvivesDump.decodes_text {contract : OpaqueServiceContract} (h : SurvivesDump contract)
    {text : String} (htext : JsonText.dumps (.obj contract.dumpObject) = .ok text)
    {json : MessagePort σ} (hjson : json.DecodesJson) (s : σ) :
    json.decode ⟨encodeUtf8 text⟩ s = (.ok contract.dumpObject, s) := by
  refine hjson _ _ ?_ s
  unfold loadsUtf8 decodeStrict
  rw [decodeUtf8_encodeUtf8]
  exact h.text text htext

/-- The worker's port reads the dump. -/
theorem SurvivesDump.decodes {contract : OpaqueServiceContract} (h : SurvivesDump contract)
    {payload : Bytes} (hdump : SharedReceiverRunner.contractBytes contract = .ok payload)
    {json : MessagePort σ} (hjson : json.DecodesJson) (s : σ) :
    json.decode ⟨payload⟩ s = (.ok contract.dumpObject, s) := by
  obtain ⟨-, text, htext, rfl⟩ := SharedReceiverRunner.contractBytes_eq_ok.mp hdump
  exact h.decodes_text htext hjson s

/-- The two runs agree as soon as their `try` blocks are in step. -/
theorem workerMatches_of_inStep {raw : RawMessage} {payload : Bytes}
    (h : ∀ (σ P : Type) (r : ServiceRunner σ P) (same : σ → σ → Prop) (json : MessagePort σ),
      r.TagsUnread same → json.DecodesJson → InStep same Event.visible? SameFailure SeenAlike
        ((r.deployed .worker json).tryBlock ⟨payload⟩ (r.deployed .worker json).serve)
        ((r.deployed .monolith (pubSubMessagePort σ)).tryBlock raw
          (r.deployed .monolith (pubSubMessagePort σ)).serve)) :
    WorkerMatchesMonolith raw payload := by
  rintro σ P r same json text s s' hunread hjson rfl hs
  have hagree := ServiceRunner.execute_inStep hunread (by decide) (by decide)
    (h σ P r same json hunread hjson) s s' hs
  rw [runWorkerOnce_run]
  exact ⟨hagree.marks, hagree.result⟩

/-- Documents that read alike. -/
theorem workerMatches_of_readAlike {raw : RawMessage} {document : JsonObject}
    {contract : OpaqueServiceContract} {payload : Bytes}
    (hdecode : PubSubMessagePort.decode raw = .ok document) (hsurvives : SurvivesDump contract)
    (hdump : SharedReceiverRunner.contractBytes contract = .ok payload)
    (halike : ReadAlike contract.dumpObject document) : WorkerMatchesMonolith raw payload := by
  refine workerMatches_of_inStep fun σ P r same json hunread hjson => ?_
  have hreceive : InStep same Event.visible? SameKind Eq
      ((r.deployed .worker json).receive ⟨payload⟩)
      ((r.deployed .monolith (pubSubMessagePort σ)).receive raw) := by
    intro s s' hs
    rw [ServiceRunner.receive_of_decoded (hsurvives.decodes hdump hjson s),
      ServiceRunner.receive_of_decoded (pubSubMessagePort_decode hdecode s')]
    exact ⟨halike P r.contractType, hs, rfl⟩
  have hread : InStep same Event.visible? SameFailure Eq
      (mapError (Failure.mk none) ((r.deployed .worker json).receive ⟨payload⟩))
      (mapError (Failure.mk none) ((r.deployed .monolith (pubSubMessagePort σ)).receive raw)) :=
    hreceive.mapError fun _ _ hkind => hkind
  have hserve : ∀ d, InStep same Event.visible? SameFailure SeenAlike
      (mapError (Failure.mk (some d.envelope.requestId)) (r.serve d))
      (mapError (Failure.mk (some d.envelope.requestId)) (r.serve d)) := by
    refine fun d => InStep.mapError ((ServiceRunner.serve_inStep hunread d).mono ?_ ?_)
      fun _ _ hkind => hkind
    · rintro e _ rfl
      exact SameKind.refl e
    · rintro res _ rfl
      exact rfl
  exact hread.seq hserve

/-- A contract no backend takes. -/
theorem workerMatches_of_untaken {raw : RawMessage} {document : JsonObject}
    {contract : OpaqueServiceContract} {payload : Bytes}
    (hdecode : PubSubMessagePort.decode raw = .ok document)
    (hvalid : Steps.validate document ContractType.opaqueService = .ok contract)
    (hsurvives : SurvivesDump contract)
    (hdump : SharedReceiverRunner.contractBytes contract = .ok payload)
    (huntaken : contract.toContractFields.Untaken) : WorkerMatchesMonolith raw payload := by
  obtain ⟨hversion, hopaque⟩ := Steps.validate_eq_ok.mp hvalid
  refine workerMatches_of_inStep fun σ P r same json hunread hjson => ?_
  intro s s' hs
  obtain ⟨rid, message, hworker⟩ := (r.deployed .worker json).tryBlock_of_untaken
    (hsurvives.decodes hdump hjson s) (Steps.versionSupported_dump contract) fun d hd => by
      obtain ⟨henvelope, hroles⟩ := roles_of_validate_dump hsurvives.leaves hd
      exact ⟨henvelope ▸ huntaken.1, hroles ▸ huntaken.2⟩
  obtain ⟨rid', message', hmonolith⟩ :=
    (r.deployed .monolith (pubSubMessagePort σ)).tryBlock_of_untaken
      (pubSubMessagePort_decode hdecode s') hversion fun d hd => by
        obtain ⟨-, hsections⟩ := (validate_of_accepted hopaque).mp hd
        rw [hsections]
        exact huntaken
  rw [hworker, hmonolith]
  exact ⟨.error (.service rfl), hs, rfl⟩

/-! ## What a run resolves -/

omit [Pydantic] [JsonText] in
theorem mem_credentials_of_plan {c : ContractFields P} {ref : SecretRef}
    (h : .resolve ref ∈ plan c) : ref ∈ c.credentials := by
  have hresolve : ∀ o : Option SecretRef, .resolve ref ∈ resolutions o → o = some ref := by
    rintro (- | ref') hmem
    · exact absurd hmem List.not_mem_nil
    · obtain rfl := Effect.resolve.inj (List.mem_singleton.mp hmem)
      rfl
  have hmem : .resolve ref ∈ resolvePlan c := by
    simpa [plan, readPlan, writePlan] using h
  rcases List.mem_append.mp hmem with hmem | hmem <;>
    obtain ⟨spec, hspec, hspec'⟩ := List.mem_flatMap.mp hmem
  · exact ContractFields.mem_credentials.mpr (.inl ⟨spec, hspec, hresolve _ hspec'⟩)
  · exact ContractFields.mem_credentials.mpr (.inr ⟨spec, hspec, hresolve _ hspec'⟩)

omit [Pydantic] [JsonText] in
theorem mem_resolvePlan_of_credentials {c : ContractFields P} {ref : SecretRef}
    (h : ref ∈ c.credentials) : .resolve ref ∈ resolvePlan c := by
  rcases ContractFields.mem_credentials.mp h with ⟨spec, hspec, href⟩ | ⟨spec, hspec, href⟩
  · refine List.mem_append_left _ (List.mem_flatMap.mpr ⟨spec, hspec, ?_⟩)
    rw [href]
    exact List.mem_singleton_self _
  · refine List.mem_append_right _ (List.mem_flatMap.mpr ⟨spec, hspec, ?_⟩)
    rw [href]
    exact List.mem_singleton_self _

omit [JsonText] in
/-- What `serve` resolves are credentials of its contract. -/
theorem ServiceRunner.resolved_of_serve {r : ServiceRunner σ P} {contract : BaseServiceContract P}
    {s : σ} {ref : SecretRef} {reply : Except PyException Credentials}
    (h : .resolve ref reply ∈ (r.serve contract s).trace) : ref ∈ contract.credentials := by
  refine mem_credentials_of_plan ((serve_follows r contract s).1.subset ?_)
  exact List.mem_filterMap.mpr ⟨_, h, rfl⟩

/-- **A worker resolves safe references only**: what it serves was read from a dump. -/
theorem uriSafe_of_resolved {r : ServiceRunner σ P} {contract : OpaqueServiceContract}
    (hsurvives : SurvivesDump contract) {payload : Bytes}
    (hdump : SharedReceiverRunner.contractBytes contract = .ok payload)
    (hjson : r.message.DecodesJson) {s : σ} {ref : SecretRef}
    {reply : Except PyException Credentials}
    (h : .resolve ref reply ∈ (r.execute ⟨payload⟩ s).trace) : ref.UriSafe := by
  obtain ⟨d, s₀, s₁, t, -, -, -, hserved, hreceive, -⟩ :=
    ServiceRunner.execute_served h (Option.some_ne_none _)
  rw [ServiceRunner.receive_of_decoded (hsurvives.decodes hdump hjson s₀)] at hreceive
  obtain ⟨-, hd⟩ := Steps.validate_eq_ok.mp (Outcome.mk.inj hreceive).1
  exact uriSafe_of_validate_dump hsurvives.leaves hd ref (ServiceRunner.resolved_of_serve hserved)

/-! ## A runner that tells them apart -/

/-- What the ports of the probe raise that it does not need. -/
def unavailable : PyException := .raised (.other "Unavailable") ""

/-- A runner whose backend takes the roles of a contract and whose secrets are always there. -/
def probe (contract : OpaqueServiceContract) (schemeAllowlist : SchemeAllowlist) :
    ServiceRunner Unit OpaqueParameters where
  contractType := ContractType.opaqueService
  storage := ⟨fun _ _ => Op.fail unavailable, fun _ _ _ => Op.fail unavailable⟩
  message := ⟨fun _ => Op.fail unavailable⟩
  webhook := ⟨fun _ _ => Op.fail unavailable⟩
  compute := {
    requiredInputRoles := contract.inputRoles.toFinset
    optionalInputRoles := ∅
    outputRoles := contract.outputRoles.toFinset
    run := fun _ _ _ => Op.fail unavailable }
  secrets := ⟨fun _ => pure nullCredentials⟩
  authorizer := allowAllPolicy _
  observability := nullObservability _
  clock := ⟨Op.fail unavailable⟩
  jobDispatcher := ⟨fun _ _ _ => Op.fail unavailable⟩
  schemeAllowlist
  mode := .monolith
  workerJobName := none

variable {contract : OpaqueServiceContract} {schemeAllowlist : SchemeAllowlist}

omit [Pydantic] [JsonText] in
/-- The worlds of the probe are all one. -/
theorem probe_tagsUnread : (probe contract schemeAllowlist).TagsUnread fun _ _ => True where
  authorize _ _ _ _ _ := ⟨rfl, trivial⟩
  resolve _ _ _ _ := ⟨rfl, trivial⟩
  read _ _ _ _ _ := ⟨rfl, trivial⟩
  write _ _ _ _ _ _ := ⟨rfl, trivial⟩
  now _ _ _ := ⟨rfl, trivial⟩
  run _ _ _ _ _ _ := ⟨rfl, trivial⟩
  notify _ _ _ _ _ := ⟨rfl, trivial⟩
  enter _ _ _ _ _ _ := ⟨rfl, trivial⟩
  exit _ _ _ _ := ⟨rfl, trivial⟩
  metric _ _ _ _ _ _ _ := ⟨rfl, trivial⟩

omit [Pydantic] [JsonText] in
theorem probe_check (htaken : ¬ contract.toContractFields.Untaken)
    (huris : ∀ uri ∈ Steps.contractUris contract.toContractFields,
      schemeAllowlist.check uri = .ok ()) :
    ∃ t, (probe contract schemeAllowlist).check contract () = ⟨.ok (), (), t⟩ := by
  have hroles : (probe contract schemeAllowlist).checkRoleCompatibility contract = .ok () := by
    refine checkRoleCompatibility_eq_ok.mpr
      ⟨Finset.Subset.refl _, Finset.subset_union_left, (Finset.union_eq_left.mpr ?_).symm⟩
    unfold readoutRoles
    split
    · rename_i hversion
      rw [Finset.singleton_subset_iff]
      by_contra hmissing
      exact htaken ⟨hversion, fun hmem => hmissing (List.mem_toFinset.mpr hmem)⟩
    · exact Finset.empty_subset _
  exact ServiceRunner.check_of_pass hroles (urisPass_allowAll huris ())

omit [Pydantic] [JsonText] in
/-- It resolves every credential of its contract. -/
theorem probe_resolves (schemeAllowlist : SchemeAllowlist) {ref : SecretRef}
    (href : ref ∈ contract.credentials) :
    ∃ reply, .resolve ref reply ∈ (Steps.resolveCredentials contract
      (probe contract schemeAllowlist).secrets () :
        Outcome (Event OpaqueParameters) Unit _ _).trace := by
  have hresolve : ∀ ref, FailsWith (fun _ => False)
      (Steps.resolveRef (probe contract schemeAllowlist).secrets ref :
        Step Unit OpaqueParameters Credentials)
    | none => FailsWith.pure _ _
    | some _ => FailsWith.call fun _ _ => nofun
  have hnever : FailsWith (fun _ => False) (Steps.resolveCredentials contract
      (probe contract schemeAllowlist).secrets : Step Unit OpaqueParameters CredentialBundle) :=
    (FailsWith.collect fun _ _ => hresolve _).bind fun _ _ _ _ _ =>
      (FailsWith.collect fun _ _ => hresolve _).bind fun _ _ _ _ _ => FailsWith.pure _ _
  have hfollows := (resolveCredentials_follows (P := OpaqueParameters) contract
    (probe contract schemeAllowlist).secrets ()).2
  rcases hrun : (Steps.resolveCredentials contract (probe contract schemeAllowlist).secrets () :
    Outcome (Event OpaqueParameters) Unit _ _).result with e | b
  · exact (hnever () e hrun).elim
  · have hmem := mem_resolvePlan_of_credentials href
    rw [← hfollows b hrun] at hmem
    obtain ⟨e, he, heffect⟩ := List.mem_filterMap.mp hmem
    cases e with
    | resolve ref' reply =>
      obtain rfl := Effect.resolve.inj (Option.some.inj heffect)
      exact ⟨reply, he⟩
    | _ => exact nomatch heffect

/-- **A monolith over the probe resolves them too**, when some backend takes the contract. -/
theorem probe_monolith {raw : RawMessage} {document : JsonObject}
    (hdecode : PubSubMessagePort.decode raw = .ok document)
    (hvalid : Steps.validate document ContractType.opaqueService = .ok contract)
    (htaken : ¬ contract.toContractFields.Untaken)
    (huris : ∀ uri ∈ Steps.contractUris contract.toContractFields,
      schemeAllowlist.check uri = .ok ()) {ref : SecretRef} (href : ref ∈ contract.credentials) :
    ∃ reply, .resolve ref reply ∈
      (((probe contract schemeAllowlist).deployed .monolith (pubSubMessagePort Unit)).execute raw
        ()).trace := by
  obtain ⟨t, hcheck⟩ := probe_check htaken huris
  obtain ⟨reply, hreply⟩ := probe_resolves schemeAllowlist href
  have hreceive : ((probe contract schemeAllowlist).deployed .monolith
      (pubSubMessagePort Unit)).receive raw () =
        ⟨.ok contract, (), [.decode raw (.ok document)]⟩ := by
    rw [ServiceRunner.receive_of_decoded (pubSubMessagePort_decode hdecode ()), ← hvalid]
    rfl
  refine ⟨reply, ServiceRunner.mem_execute_of_serve nofun rfl hreceive ?_⟩
  have hserve : (((probe contract schemeAllowlist).deployed .monolith
      (pubSubMessagePort Unit)).serve contract ()).trace = t ++ _ :=
    congrArg Outcome.trace (Traced.run_bind_ok _ hcheck)
  rw [hserve]
  refine List.mem_append_right _ (Traced.mem_trace_bind ?_ _)
  exact Traced.mem_trace_bind (Traced.mem_trace_bind hreply _) _

/-! ## The whole hand-over -/

omit [UnicodeData] [Pydantic] [JsonText] in
theorem visible_resolve {trace : List (Event P)} {ref : SecretRef}
    {reply : Except PyException Credentials} :
    .resolve ref reply ∈ trace.filterMap Event.visible? ↔ .resolve ref reply ∈ trace := by
  rw [List.mem_filterMap]
  constructor
  · rintro ⟨e, he, hvisible⟩
    obtain ⟨_, -, rfl⟩ := Option.map_eq_some_iff.mp hvisible
    exact he
  · exact fun h => ⟨_, h, rfl⟩

/-- Where some backend takes the contract, a worker that matches has safe credentials to resolve. -/
theorem uriSafe_of_workerMatches {raw : RawMessage} {document : JsonObject}
    (hdecode : PubSubMessagePort.decode raw = .ok document)
    (hvalid : Steps.validate document ContractType.opaqueService = .ok contract)
    (hsurvives : SurvivesDump contract) {payload : Bytes}
    (hdump : SharedReceiverRunner.contractBytes contract = .ok payload)
    (htaken : ¬ contract.toContractFields.Untaken)
    (huris : ∀ uri ∈ Steps.contractUris contract.toContractFields,
      schemeAllowlist.check uri = .ok ())
    (hmatches : WorkerMatchesMonolith raw payload) :
    ∀ ref ∈ contract.credentials, ref.UriSafe := by
  intro ref href
  obtain ⟨-, text, -, htext⟩ := SharedReceiverRunner.contractBytes_eq_ok.mp hdump
  obtain ⟨reply, hresolved⟩ := probe_monolith hdecode hvalid htaken huris href
  obtain ⟨hsame, -⟩ := hmatches Unit OpaqueParameters (probe contract schemeAllowlist) _
    (inMemoryMessagePort Unit) text () () probe_tagsUnread inMemoryMessagePort_decodesJson
    htext.symm trivial
  rw [← visible_resolve, ← hsame, visible_resolve, runWorkerOnce_run, ← htext] at hresolved
  exact uriSafe_of_resolved hsurvives hdump inMemoryMessagePort_decodesJson hresolved

/-- **When nothing is lost**, for one contract. -/
theorem workerMatches_iff {raw : RawMessage} {document : JsonObject}
    (hdecode : PubSubMessagePort.decode raw = .ok document)
    (hvalid : Steps.validate document ContractType.opaqueService = .ok contract)
    (hsurvives : SurvivesDump contract) {payload : Bytes}
    (hdump : SharedReceiverRunner.contractBytes contract = .ok payload)
    (huris : ∀ uri ∈ Steps.contractUris contract.toContractFields,
      schemeAllowlist.check uri = .ok ()) :
    WorkerMatchesMonolith raw payload ↔
      (∀ ref ∈ contract.credentials, ref.UriSafe) ∨ contract.toContractFields.Untaken := by
  constructor
  · intro hmatches
    by_cases htaken : contract.toContractFields.Untaken
    · exact .inr htaken
    · exact .inl (uriSafe_of_workerMatches hdecode hvalid hsurvives hdump htaken huris hmatches)
  · rintro (hsafe | huntaken)
    · exact workerMatches_of_readAlike hdecode hsurvives hdump
        (readAlike_dump hvalid hsurvives.leaves hsafe)
    · exact workerMatches_of_untaken hdecode hvalid hsurvives hdump huntaken

/-- **When a worker does what a monolith would**: for every body a receiver dispatches, exactly
when every credential of its contract is safe in a URI, or no backend takes the contract. -/
theorem worker_matches_iff {q : SharedReceiverRunner σ} {raw : RawMessage} {s : σ} {job : String}
    {payload : Bytes} {requestId : UUID} {reply : Except PyException DispatchedJob}
    (hmessage : q.message = pubSubMessagePort σ)
    (hdispatched : .dispatch job payload requestId reply ∈ (q.execute raw s).trace)
    (hsurvives : ∀ document contract, PubSubMessagePort.decode raw = .ok document →
      Steps.validate document ContractType.opaqueService = .ok contract → SurvivesDump contract) :
    ∃ document contract, PubSubMessagePort.decode raw = .ok document ∧
      Steps.validate document ContractType.opaqueService = .ok contract ∧
        (WorkerMatchesMonolith raw payload ↔
          (∀ ref ∈ contract.credentials, ref.UriSafe) ∨ contract.toContractFields.Untaken) := by
  obtain ⟨contract, s₀, s₁, ⟨s₂, ⟨document, hread, hvalid⟩, hpass, -⟩, hdump⟩ :=
    SharedReceiverRunner.accepted_of_dispatched hdispatched
  have hdecode : PubSubMessagePort.decode raw = .ok document := by
    rw [hmessage] at hread
    exact (Prod.mk.inj hread).1
  exact ⟨document, contract, hdecode, hvalid, workerMatches_iff hdecode hvalid
    (hsurvives document contract hdecode hvalid) hdump hpass.checks⟩

end

/-! ## A contract with one credential -/

attribute [local instance] UnicodeData.ascii

namespace Sample

/-- The factories' contract with a credential, its last key first. -/
def secretContract (credentialRef : Json) : JsonObject :=
  (makeContract "1.0" [input credentialRef] [output]).reverse

/-- The body around it. -/
def secretBody (credentialRef : Json) : Json :=
  .obj [("message", .obj [("data", .str (b64encode (encodeUtf8
    (String.ofList (Leaves.render (.obj (secretContract credentialRef)))))))])]

/-- The documents that are written on the way: the body, what it wraps, and the dump. -/
def secretDocs (credentialRef : Json) (contract : OpaqueServiceContract) : List Json :=
  letI := Leaves.pydantic []
  [.obj (secretContract credentialRef), secretBody credentialRef, .obj contract.dumpObject]

/-- Their texts differ at the first key. -/
theorem distinct_secretDocs (credentialRef : Json) (contract : OpaqueServiceContract) :
    Leaves.Distinct (secretDocs credentialRef contract) := by
  let _ := Leaves.pydantic []
  have hcontract : (Leaves.render (.obj (secretContract credentialRef))).take 3 = ['{', '"', 'p'] :=
    rfl
  have hbody : (Leaves.render (secretBody credentialRef)).take 3 = ['{', '"', 'm'] := rfl
  have hdump : (Leaves.render (.obj contract.dumpObject)).take 3 = ['{', '"', 'e'] := rfl
  intro j hj j' hj' h
  simp only [secretDocs, List.mem_cons, List.not_mem_nil, or_false] at hj hj'
  have htake := congrArg (List.take 3) h
  rcases hj with rfl | rfl | rfl <;> rcases hj' with rfl | rfl | rfl <;>
    first | rfl | (simp only [hcontract, hbody, hdump] at htake; exact absurd htake (by decide))

/-- The receiver of the sample, behind Pub/Sub. -/
def pubSubReceiver [JsonText] : SharedReceiverRunner FakeWorld :=
  { sharedReceiver (Dict.empty.set "sample" "sample-worker") with message := pubSubMessagePort _ }

/-- The push body. -/
def secretRaw [JsonText] (credentialRef : Json) : RawMessage :=
  ⟨(PubSubMessagePort.encode (secretContract credentialRef)).toOption.getD ByteArray.empty⟩

/-- The fields of a reference. -/
def fieldsOf (ref : SecretRef) : String × String × String :=
  (ref.provider.val, ref.name.val, ref.version.val)

/-- What the sample needs of its contract: the credentials, and leaves and URIs that pass. -/
structure Suits (credentials : List (String × String × String)) (contract : OpaqueServiceContract) :
    Prop where
  version : contract.envelope.protocolVersion = .v1_0
  service : contract.service.name.val = "sample"
  credentials : contract.credentials.map fieldsOf = credentials
  leaves : letI := Leaves.pydantic []
    contract.toContractFields.LeavesSurvive
  uris : ∀ uri ∈ Steps.contractUris contract.toContractFields,
    (⟨{"gs"}⟩ : SchemeAllowlist).check uri = .ok ()

instance (credentials : List (String × String × String)) (contract : OpaqueServiceContract) :
    Decidable (Suits credentials contract) :=
  letI := Leaves.pydantic []
  decidable_of_iff (contract.envelope.protocolVersion = .v1_0 ∧
      contract.service.name.val = "sample" ∧ contract.credentials.map fieldsOf = credentials ∧
        contract.toContractFields.LeavesSurvive ∧
          ∀ uri ∈ Steps.contractUris contract.toContractFields,
            (⟨{"gs"}⟩ : SchemeAllowlist).check uri = .ok ())
    ⟨fun h => ⟨h.1, h.2.1, h.2.2.1, h.2.2.2.1, h.2.2.2.2⟩,
      fun h => ⟨h.version, h.service, h.credentials, h.leaves, h.uris⟩⟩

/-- **The receiver dispatches it**, and its leaves and texts survive. -/
theorem secretContract_dispatched (credentialRef : Json)
    (credentials : List (String × String × String)) : letI := Leaves.pydantic []
    (Steps.validate (secretContract credentialRef) ContractType.opaqueService).toOption.any
        (fun contract => decide (Suits credentials contract)) = true →
    ∃ contract : OpaqueServiceContract,
      Steps.validate (secretContract credentialRef) ContractType.opaqueService = .ok contract ∧
        Suits credentials contract ∧
        letI := Leaves.codedText (secretDocs credentialRef contract)
        PubSubMessagePort.decode (secretRaw credentialRef) = .ok (secretContract credentialRef) ∧
          SurvivesDump contract ∧ ∃ payload,
            SharedReceiverRunner.contractBytes contract = .ok payload ∧ ∃ reply,
              .dispatch "sample-worker" payload contract.envelope.requestId reply ∈
                (pubSubReceiver.execute (secretRaw credentialRef) world).trace := by
  let _ := Leaves.pydantic []
  intro hany
  obtain ⟨contract, hvalid, hsuits⟩ : ∃ contract : OpaqueServiceContract,
      Steps.validate (secretContract credentialRef) ContractType.opaqueService = .ok contract ∧
        Suits credentials contract := by
    rcases hresult : Steps.validate (secretContract credentialRef) ContractType.opaqueService with
      e | c
    · rw [hresult] at hany
      exact absurd hany nofun
    · rw [hresult] at hany
      exact ⟨c, rfl, of_decide_eq_true hany⟩
  let _ := Leaves.codedText (secretDocs credentialRef contract)
  have hcodec := PubSubMessagePort.loadsUndoesDumps_codedText
    (distinct_secretDocs credentialRef contract)
  have hread := Leaves.loads_dumps_codedText _ (distinct_secretDocs credentialRef contract)
  have hdecode : PubSubMessagePort.decode (secretRaw credentialRef) =
      .ok (secretContract credentialRef) := by
    obtain ⟨body, hencode, hbody⟩ := PubSubMessagePort.decode_encode_of_readsBack hcodec
      ⟨_, hread (.obj (secretContract credentialRef))⟩
    unfold secretRaw
    rw [hencode]
    exact hbody
  have hdump : SharedReceiverRunner.contractBytes contract = .ok _ :=
    SharedReceiverRunner.contractBytes_eq_ok.mpr ⟨rfl, _, (hread _).1, rfl⟩
  refine ⟨contract, hvalid, hsuits, hdecode, ⟨hsuits.leaves, fun text htext => ?_⟩, _, hdump, ?_⟩
  · obtain rfl := Except.ok.inj ((hread _).1.symm.trans htext)
    exact (hread _).2
  · refine SharedReceiverRunner.dispatched_of_accepted rfl
      ⟨world, ⟨_, pubSubMessagePort_decode hdecode world, hvalid⟩,
        urisPass_allowAll hsuits.uris world, ?_⟩ hdump
    rw [hsuits.service]
    rfl

/-- A credential given as a URI. -/
def plainRef : Json := .str "secret://gsm/key"

/-- A structured credential, with a slash in its name. -/
def slashedRef : Json := .obj [("provider", .str "gsm"), ("name", .str "a/b")]

theorem uriSafe_plain {ref : SecretRef} (h : fieldsOf ref = ("gsm", "key", "latest")) :
    ref.UriSafe := by
  obtain ⟨hprovider, hname, hversion⟩ : _ ∧ _ ∧ _ := by simpa only [fieldsOf, Prod.mk.injEq] using h
  refine ⟨?_, ?_, ?_, ?_, fun hlatest => absurd hversion hlatest⟩
  · rw [hprovider]
    decide
  · rw [hprovider]
    decide
  · rw [hprovider]
    decide
  · rw [hname]
    decide

end Sample

/-- A credential given as a URI. -/
theorem worker_matches_iff_sample : letI := Leaves.pydantic []
    ∃ contract : OpaqueServiceContract,
      letI := Leaves.codedText (Sample.secretDocs Sample.plainRef contract)
      ∃ payload, SharedReceiverRunner.contractBytes contract = .ok payload ∧
        WorkerMatchesMonolith (Sample.secretRaw Sample.plainRef) payload := by
  let _ := Leaves.pydantic []
  obtain ⟨contract, hvalid, hsuits, hdecode, hsurvives, payload, hdump, reply, hdispatched⟩ :=
    Sample.secretContract_dispatched Sample.plainRef [("gsm", "key", "latest")] (by decide +kernel)
  let _ := Leaves.codedText (Sample.secretDocs Sample.plainRef contract)
  have hread : ∀ document contract', PubSubMessagePort.decode (Sample.secretRaw Sample.plainRef) =
      .ok document → Steps.validate document ContractType.opaqueService = .ok contract' →
        contract' = contract := by
    intro document contract' hdocument hcontract'
    obtain rfl := Except.ok.inj (hdecode.symm.trans hdocument)
    exact Except.ok.inj (hcontract'.symm.trans hvalid)
  obtain ⟨document, contract', hdocument, hcontract', hiff⟩ := worker_matches_iff rfl hdispatched
    fun _ _ hdocument hcontract' => hread _ _ hdocument hcontract' ▸ hsurvives
  obtain rfl := hread _ _ hdocument hcontract'
  refine ⟨contract', payload, hdump, hiff.mpr (.inl fun ref href => ?_)⟩
  have hfields := List.mem_map_of_mem (f := Sample.fieldsOf) href
  rw [hsuits.credentials] at hfields
  exact Sample.uriSafe_plain (List.mem_singleton.mp hfields)

/-- **A slash in the name of a structured credential**: the monolith resolves it, the worker
another secret. -/
theorem structured_credential_lost : letI := Leaves.pydantic []
    ∃ contract : OpaqueServiceContract,
      letI := Leaves.codedText (Sample.secretDocs Sample.slashedRef contract)
      SurvivesDump contract ∧ ∃ payload,
        (∃ reply, .dispatch "sample-worker" payload contract.envelope.requestId reply ∈
          (Sample.pubSubReceiver.execute (Sample.secretRaw Sample.slashedRef) Sample.world).trace) ∧
        ¬ WorkerMatchesMonolith (Sample.secretRaw Sample.slashedRef) payload := by
  let _ := Leaves.pydantic []
  obtain ⟨contract, hvalid, hsuits, hdecode, hsurvives, payload, hdump, hdispatched⟩ :=
    Sample.secretContract_dispatched Sample.slashedRef [("gsm", "a/b", "latest")]
      (by decide +kernel)
  let _ := Leaves.codedText (Sample.secretDocs Sample.slashedRef contract)
  refine ⟨contract, hsurvives, payload, hdispatched, fun hmatches => ?_⟩
  rcases (workerMatches_iff hdecode hvalid hsurvives hdump hsuits.uris).mp hmatches with
    hsafe | huntaken
  · obtain ⟨ref, href, hfields⟩ := List.mem_map.mp
      (show ("gsm", "a/b", "latest") ∈ contract.credentials.map Sample.fieldsOf from
        hsuits.credentials ▸ List.mem_singleton_self _)
    have hname : ref.name.val = "a/b" := (Prod.mk.inj (Prod.mk.inj hfields).2).1
    have hslash := (hsafe ref href).name '/'
    rw [hname] at hslash
    exact absurd (hslash (by decide)) (by decide)
  · exact absurd (hsuits.version.symm.trans huntaken.1) nofun

end Grabatus
