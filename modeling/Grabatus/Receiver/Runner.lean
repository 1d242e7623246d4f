import Grabatus.Receiver.Registry
import Grabatus.Runner.Totality
import Grabatus.Testing.Fakes

/-!
# `SharedReceiverRunner`

Model of `receiver/runner.py`. The shared receiver: it decodes and validates an envelope with its
parameters opaque, authorizes its URIs, looks its service up and hands the contract to the worker
job. A block of these stages runs under `except GrabatusServiceError` inside a span, like a branch
of `ServiceRunner`.

The ports answer from a world that changes with every call, so "every URI passes" is a chain of
answers (`UrisPass`), each from the world the one before it left.

Results:

* `route_cases`: the stages up to the dispatcher fail at one of them (`FailsBefore`), or accept the
  envelope (`Accepted`) and end in one call of the dispatcher.
* `receiver_executes_iff`: a run of `execute` dispatches at most once, and exactly when the envelope
  is accepted, and its result says what the dispatcher returned, or which stage failed first; that
  is so exactly when an accepted contract can be serialized, for the exception of the dump passes
  the clause (`deep_parameters_escape`).

Out of scope: the exception that the exit of the span is told of.
-/

namespace Grabatus

open Grabatus.Lib Grabatus.Python

section

variable [UnicodeData] {σ : Type}

/-- `ReceiverExecutionResult`. -/
structure ReceiverExecutionResult where
  requestId : UUID
  status : Status
  dispatchedJobId : Option String
  error : Option GrabatusServiceError

/-- `SharedReceiverRunner`, with the ports of its `SharedReceiverAdapters`. -/
structure SharedReceiverRunner (σ : Type) where
  message : MessagePort σ
  authorizer : UriAuthorizationPort σ
  jobDispatcher : JobDispatcherPort σ
  observability : ObservabilityPort σ
  clock : ClockPort σ
  schemeAllowlist : SchemeAllowlist
  registry : ServiceRegistry
  mode : RuntimeMode

namespace SharedReceiverRunner

/-- The call that enters the span. -/
def entered (reply : Except PyException Unit) : Event OpaqueParameters :=
  .enter "shared_receiver.execute" [] reply

/-- The call that leaves it. -/
def exited (reply : Except PyException Unit) : Event OpaqueParameters :=
  .exit "shared_receiver.execute" reply

/-- The metric of a failed envelope. -/
def reported (error : GrabatusServiceError) (reply : Except PyException Unit) :
    Event OpaqueParameters :=
  .metric "shared_receiver.errors" (.finite 1) [("error_code", error.errorCode)] reply

/-- The result of an envelope that failed with `error`. -/
def errorResult (requestId : Option UUID) (error : GrabatusServiceError) :
    ReceiverExecutionResult where
  requestId := requestId.getD UUID.placeholder
  status := .error
  dispatchedJobId := none
  error := some error

/-- The result of an envelope handed to a job. -/
def okResult (requestId : UUID) (dispatched : DispatchedJob) : ReceiverExecutionResult where
  requestId
  status := .ok
  dispatchedJobId := some dispatched.jobId
  error := none

/-- `except GrabatusServiceError as exc`. -/
def exceptServiceError (r : SharedReceiverRunner σ) (failure : Failure) :
    Step σ OpaqueParameters ReceiverExecutionResult :=
  match failure.exception with
  | .service error => do
    Traced.call (r.observability.metric "shared_receiver.errors" (.finite 1)
      [("error_code", error.errorCode)]) (reported error)
    return errorResult failure.requestId error
  | .raised cls message => Traced.raise (.raised cls message)

variable [Pydantic]

/-- Decode and validate; the `request_id` is not known yet. -/
def receive (r : SharedReceiverRunner σ) (raw : RawMessage) :
    Step σ OpaqueParameters OpaqueServiceContract := do
  let payload ← Steps.decode raw r.message
  Traced.lift (Steps.validate payload ContractType.opaqueService)

variable [JsonText]

/-- `json.dumps(contract.model_dump(mode="json")).encode("utf-8")`. -/
def contractBytes (contract : OpaqueServiceContract) : Except PyException Bytes := do
  let document ← contract.modelDump
  let text ← JsonText.dumps (.obj document)
  return encodeUtf8 text

/-- What `execute` does once the `request_id` is known. -/
def route (r : SharedReceiverRunner σ) (contract : OpaqueServiceContract) :
    Step σ OpaqueParameters ReceiverExecutionResult := do
  Steps.authorize contract r.authorizer r.schemeAllowlist
  let workerJob ← Traced.lift (r.registry.resolve contract.service.name.val)
  let requestId := contract.envelope.requestId
  let payload ← Traced.lift (contractBytes contract)
  let dispatched ← Traced.call
    (r.jobDispatcher.dispatch workerJob payload requestId)
    (.dispatch workerJob payload requestId)
  return okResult requestId dispatched

/-- The `try` block: `request_id` is `None` until the contract validated. -/
def tryBlock (r : SharedReceiverRunner σ) (raw : RawMessage) :
    Traced (Event OpaqueParameters) σ Failure ReceiverExecutionResult := do
  let contract ← Traced.mapError (Failure.mk none) (r.receive raw)
  Traced.mapError (Failure.mk (some contract.envelope.requestId)) (r.route contract)

/-- `SharedReceiverRunner.execute`. -/
def execute (r : SharedReceiverRunner σ) (raw : RawMessage) :
    Step σ OpaqueParameters ReceiverExecutionResult :=
  Traced.within
    (Traced.call (r.observability.enter "shared_receiver.execute" []) entered)
    (Traced.call (r.observability.exit "shared_receiver.execute") exited)
    (Traced.handle (r.tryBlock raw) r.exceptServiceError)

/-! ## What the stages decide -/

/-- From world `s`, the body decodes and validates as `contract`. -/
def Reads (r : SharedReceiverRunner σ) (raw : RawMessage) (s : σ)
    (contract : OpaqueServiceContract) (s' : σ) : Prop :=
  ∃ payload, r.message.decode raw s = (.ok payload, s') ∧
    Steps.validate payload ContractType.opaqueService = .ok contract

/-- From world `s`, the body reads as `contract`, every URI of it passes, and `job` runs its
service. -/
def Accepted (r : SharedReceiverRunner σ) (raw : RawMessage) (s : σ)
    (contract : OpaqueServiceContract) (job : String) (s' : σ) : Prop :=
  ∃ s₁, r.Reads raw s contract s₁ ∧
    Steps.UrisPass r.authorizer r.schemeAllowlist contract.identity
      (Steps.contractUris contract.toContractFields) s₁ s' ∧
    r.registry.byName.get? contract.service.name.val = some job

/-- **The first stage that fails**, with its exception and the `request_id` known there. -/
inductive FailsAt (r : SharedReceiverRunner σ) (raw : RawMessage) (s : σ) :
    Option UUID → PyException → Prop
  | undecoded {e : PyException} {s' : σ} (hdecode : r.message.decode raw s = (.error e, s')) :
    FailsAt r raw s none e
  | invalid {payload : JsonObject} {e : PyException} {s' : σ}
      (hdecode : r.message.decode raw s = (.ok payload, s'))
      (hvalidate : Steps.validate payload ContractType.opaqueService = .error e) :
    FailsAt r raw s none e
  | unauthorized {contract : OpaqueServiceContract} {e : PyException} {s' : σ}
      (hreads : r.Reads raw s contract s')
      (huris : Steps.UrisFail r.authorizer r.schemeAllowlist contract.identity
        (Steps.contractUris contract.toContractFields) s' e) :
    FailsAt r raw s (some contract.envelope.requestId) e
  | unregistered {contract : OpaqueServiceContract} {e : PyException} {s₁ s' : σ}
      (hreads : r.Reads raw s contract s₁)
      (huris : Steps.UrisPass r.authorizer r.schemeAllowlist contract.identity
        (Steps.contractUris contract.toContractFields) s₁ s')
      (hname : r.registry.resolve contract.service.name.val = .error e) :
    FailsAt r raw s (some contract.envelope.requestId) e
  | undumped {contract : OpaqueServiceContract} {job : String} {e : PyException} {s₁ : σ}
      (haccepted : r.Accepted raw s contract job s₁)
      (hdump : contractBytes contract = .error e) :
    FailsAt r raw s (some contract.envelope.requestId) e
  | undispatched {contract : OpaqueServiceContract} {job : String} {payload : Bytes}
      {e : PyException} {s₁ s' : σ} (haccepted : r.Accepted raw s contract job s₁)
      (hdump : contractBytes contract = .ok payload)
      (hdispatch : r.jobDispatcher.dispatch job payload contract.envelope.requestId s₁ =
        (.error e, s')) :
    FailsAt r raw s (some contract.envelope.requestId) e

variable {r : SharedReceiverRunner σ} {raw : RawMessage} {s : σ}

omit [JsonText] in
theorem Reads.unique {contract contract' : OpaqueServiceContract} {s' s'' : σ}
    (h : r.Reads raw s contract s') (h' : r.Reads raw s contract' s'') :
    contract = contract' ∧ s' = s'' := by
  obtain ⟨payload, hdecode, hvalidate⟩ := h
  obtain ⟨payload', hdecode', hvalidate'⟩ := h'
  obtain ⟨hpayload, rfl⟩ := Prod.mk.inj (hdecode.symm.trans hdecode')
  obtain rfl := Except.ok.inj hpayload
  exact ⟨Except.ok.inj (hvalidate.symm.trans hvalidate'), rfl⟩

omit [JsonText] in
theorem Accepted.unique {contract contract' : OpaqueServiceContract} {job job' : String}
    {s' s'' : σ} (h : r.Accepted raw s contract job s') (h' : r.Accepted raw s contract' job' s'') :
    contract = contract' ∧ job = job' ∧ s' = s'' := by
  obtain ⟨s₁, hreads, huris, hjob⟩ := h
  obtain ⟨s₁', hreads', huris', hjob'⟩ := h'
  obtain ⟨rfl, rfl⟩ := hreads.unique hreads'
  exact ⟨rfl, Option.some.inj (hjob.symm.trans hjob'), (huris.unique.1 s'' huris').symm⟩

/-- Once the contract validated, a failure carries its `request_id`. -/
theorem FailsAt.requestId {rid : Option UUID} {e : PyException} (h : r.FailsAt raw s rid e)
    {contract : OpaqueServiceContract} {s' : σ} (hreads : r.Reads raw s contract s') :
    rid = some contract.envelope.requestId := by
  cases h with
  | undecoded hdecode =>
    obtain ⟨payload, hdecode', -⟩ := hreads
    exact absurd (Prod.mk.inj (hdecode.symm.trans hdecode')).1 nofun
  | invalid hdecode hvalidate =>
    obtain ⟨payload, hdecode', hvalidate'⟩ := hreads
    obtain ⟨hpayload, -⟩ := Prod.mk.inj (hdecode.symm.trans hdecode')
    rw [Except.ok.inj hpayload, hvalidate'] at hvalidate
    exact absurd hvalidate nofun
  | unauthorized hreads' huris => rw [(hreads'.unique hreads).1]
  | unregistered hreads' huris hname => rw [(hreads'.unique hreads).1]
  | undumped haccepted hdump =>
    obtain ⟨s₁, hreads', -, -⟩ := haccepted
    rw [(hreads'.unique hreads).1]
  | undispatched haccepted hdump hdispatch =>
    obtain ⟨s₁, hreads', -, -⟩ := haccepted
    rw [(hreads'.unique hreads).1]

/-! ## The `try` block -/

/-- A call of the dispatcher: the job, the payload, the request and the reply. -/
structure DispatchCall where
  job : String
  payload : Bytes
  requestId : UUID
  reply : Except PyException DispatchedJob

omit [UnicodeData] [Pydantic] [JsonText] in
/-- The call of the dispatcher an event records. -/
def dispatchCall? : Event OpaqueParameters → Option DispatchCall
  | .dispatch job payload requestId reply => some ⟨job, payload, requestId, reply⟩
  | _ => none

omit [UnicodeData] [Pydantic] [JsonText] in
theorem dispatchCall?_eq_none {e : Event OpaqueParameters} (h : e.stage ≠ .dispatch) :
    dispatchCall? e = none := by
  cases e <;> first | rfl | exact absurd rfl h

/-- Calls before the dispatcher's. -/
def Quiet (t : List (Event OpaqueParameters)) : Prop := t.filterMap dispatchCall? = []

omit [UnicodeData] [Pydantic] [JsonText] in
theorem quiet_of_stage {t : List (Event OpaqueParameters)} (h : ∀ e ∈ t, e.stage ≠ .dispatch) :
    Quiet t := List.filterMap_eq_nil_iff.mpr fun e he => dispatchCall?_eq_none (h e he)

/-- What follows a validated contract: a URI or the registry refuses it, it does not dump, or the
dispatcher is called. -/
theorem route_cases (r : SharedReceiverRunner σ) (contract : OpaqueServiceContract) (s : σ) :
    (∃ e s' t, Quiet t ∧ r.route contract s = ⟨.error e, s', t⟩ ∧
      (Steps.UrisFail r.authorizer r.schemeAllowlist contract.identity
          (Steps.contractUris contract.toContractFields) s e ∨
        ∃ s₁, Steps.UrisPass r.authorizer r.schemeAllowlist contract.identity
          (Steps.contractUris contract.toContractFields) s s₁ ∧
            (r.registry.resolve contract.service.name.val = .error e ∨
              ∃ job, r.registry.byName.get? contract.service.name.val = some job ∧
                contractBytes contract = .error e))) ∨
    ∃ job s₁ payload reply s' t, Quiet t ∧
      r.route contract s = ⟨reply.map (okResult contract.envelope.requestId), s',
        t ++ [.dispatch job payload contract.envelope.requestId reply]⟩ ∧
      Steps.UrisPass r.authorizer r.schemeAllowlist contract.identity
        (Steps.contractUris contract.toContractFields) s s₁ ∧
      r.registry.byName.get? contract.service.name.val = some job ∧
      contractBytes contract = .ok payload ∧
      r.jobDispatcher.dispatch job payload contract.envelope.requestId s₁ = (reply, s') := by
  have hquiet : Quiet (Steps.authorize contract r.authorizer r.schemeAllowlist s).trace := by
    rw [Steps.authorize_eq_each]
    have huri : ∀ uri, Traced.Emits (fun e : Event OpaqueParameters => e.stage = .check)
        (Steps.authorizeUri r.authorizer r.schemeAllowlist contract.identity uri) := fun _ =>
      (Traced.Emits.lift _ _).bind fun _ => Traced.Emits.call fun _ => rfl
    refine quiet_of_stage fun e he => ?_
    rw [Traced.Emits.each huri _ s e he]
    exact nofun
  unfold route
  rw [Steps.authorize_eq_each] at hquiet ⊢
  rcases Steps.authorizeUris_cases (P := OpaqueParameters) r.authorizer r.schemeAllowlist
    contract.identity (Steps.contractUris contract.toContractFields) s with
    ⟨s₁, t, hpass, hrun⟩ | ⟨e, s', t, hfail, hrun⟩
  · rw [hrun] at hquiet
    rw [Traced.run_bind_ok _ hrun]
    rcases hname : r.registry.resolve contract.service.name.val with e | job
    · rw [Traced.run_bind_error _ (Traced.run_lift _ _)]
      exact .inl ⟨e, s₁, _, by simpa using hquiet, rfl, .inr ⟨s₁, hpass, .inl rfl⟩⟩
    have hjob := ServiceRegistry.resolve_eq_ok.mp hname
    rw [Traced.run_bind_ok _ (Traced.run_lift _ _)]
    rcases hdump : contractBytes contract with e | payload
    · rw [Traced.run_bind_error _ (Traced.run_lift _ _)]
      exact .inl ⟨e, s₁, _, by simpa using hquiet, rfl, .inr ⟨s₁, hpass, .inr ⟨job, hjob, rfl⟩⟩⟩
    rw [Traced.run_bind_ok _ (Traced.run_lift _ _)]
    rcases hdispatch : r.jobDispatcher.dispatch job payload contract.envelope.requestId s₁ with
      ⟨reply, s'⟩
    refine .inr ⟨job, s₁, payload, reply, s', t, hquiet, ?_, hpass, hjob, rfl, hdispatch⟩
    have hcall := Traced.call_bind_pure
      (r.jobDispatcher.dispatch job payload contract.envelope.requestId)
      (Event.dispatch (P := OpaqueParameters) job payload contract.envelope.requestId)
      (okResult contract.envelope.requestId) s₁
    rw [hdispatch] at hcall
    rw [hcall]
    rfl
  · rw [hrun] at hquiet
    rw [Traced.run_bind_error _ hrun]
    exact .inl ⟨e, s', t, hquiet, rfl, .inl hfail⟩

omit [JsonText] in
/-- The body does not read, or reads as a contract. -/
theorem receive_cases (r : SharedReceiverRunner σ) (raw : RawMessage) (s : σ) :
    (∃ e s' t, Quiet t ∧ r.receive raw s = ⟨.error e, s', t⟩ ∧
      ((∃ s₁, r.message.decode raw s = (.error e, s₁)) ∨
        ∃ payload s₁, r.message.decode raw s = (.ok payload, s₁) ∧
          Steps.validate payload ContractType.opaqueService = .error e)) ∨
    ∃ contract s' t, Quiet t ∧ r.receive raw s = ⟨.ok contract, s', t⟩ ∧
      r.Reads raw s contract s' := by
  have hdecoded : ∀ reply s₁, r.message.decode raw s = (reply, s₁) →
      (Steps.decode raw r.message s : Outcome (Event OpaqueParameters) σ _ _) =
        ⟨reply, s₁, [.decode raw reply]⟩ := fun reply s₁ h => by
    simp [Steps.decode, Traced.call, h]
  have hquiet : ∀ reply, Quiet [.decode raw reply] := fun _ => rfl
  unfold receive
  rcases hdecode : r.message.decode raw s with ⟨e | payload, s₁⟩
  · exact .inl ⟨e, s₁, _, hquiet _, Traced.run_bind_error _ (hdecoded _ _ hdecode), .inl ⟨s₁, rfl⟩⟩
  · rw [Traced.run_bind_ok _ (hdecoded _ _ hdecode)]
    rcases hvalidate : Steps.validate payload ContractType.opaqueService with e | contract
    · exact .inl ⟨e, s₁, _, hquiet _, rfl, .inr ⟨payload, s₁, rfl, hvalidate⟩⟩
    · exact .inr ⟨contract, s₁, _, hquiet _, rfl, payload, hdecode, hvalidate⟩

/-- **The `try` block fails before the dispatcher, or ends in the one call of it.** -/
theorem tryBlock_cases (r : SharedReceiverRunner σ) (raw : RawMessage) (s : σ) :
    (∃ rid e s' t, Quiet t ∧ r.tryBlock raw s = ⟨.error ⟨rid, e⟩, s', t⟩ ∧
      r.FailsAt raw s rid e ∧ ∀ contract job s₁ payload, r.Accepted raw s contract job s₁ →
        contractBytes contract ≠ .ok payload) ∨
    ∃ contract job s₁ payload reply s' t, Quiet t ∧
      r.tryBlock raw s =
        ⟨(reply.map (okResult contract.envelope.requestId)).mapError
            (Failure.mk (some contract.envelope.requestId)), s',
          t ++ [.dispatch job payload contract.envelope.requestId reply]⟩ ∧
      r.Accepted raw s contract job s₁ ∧ contractBytes contract = .ok payload ∧
      r.jobDispatcher.dispatch job payload contract.envelope.requestId s₁ = (reply, s') := by
  unfold tryBlock
  rcases r.receive_cases raw s with ⟨e, s', t, hquiet, hrun, hfails⟩ |
    ⟨contract, s', t, hquiet, hrun, hreads⟩
  · refine .inl ⟨none, e, s', t, hquiet,
      Traced.run_bind_error _ (Traced.mapError_error.mpr ⟨e, rfl, hrun⟩), ?_, ?_⟩
    · rcases hfails with ⟨s₁, hdecode⟩ | ⟨payload, s₁, hdecode, hvalidate⟩
      · exact .undecoded hdecode
      · exact .invalid hdecode hvalidate
    · rintro contract job s₁ - ⟨s₂, ⟨payload, hdecode, hvalidate⟩, -, -⟩
      rcases hfails with ⟨s₁, hdecode'⟩ | ⟨payload', s₁, hdecode', hvalidate'⟩
      · exact absurd (Prod.mk.inj (hdecode.symm.trans hdecode')).1 nofun
      · obtain ⟨hpayload, -⟩ := Prod.mk.inj (hdecode.symm.trans hdecode')
        rw [← Except.ok.inj hpayload, hvalidate] at hvalidate'
        exact absurd hvalidate' nofun
  · rw [Traced.run_bind_ok _ (Traced.mapError_ok.mpr hrun)]
    rcases r.route_cases contract s' with ⟨e, s'', t', hquiet', hroute, hfails⟩ |
      ⟨job, s₁, payload, reply, s'', t', hquiet', hroute, hpass, hjob, hdump, hdispatch⟩
    · have hboth : Quiet (t ++ t') := by
        unfold Quiet
        rw [List.filterMap_append, hquiet, hquiet', List.append_nil]
      refine .inl ⟨some contract.envelope.requestId, e, s'', t ++ t', hboth, ?_, ?_, ?_⟩
      · rw [Traced.mapError_error.mpr ⟨e, rfl, hroute⟩]
      · rcases hfails with hfail | ⟨s₁, hpass, hname | ⟨job, hjob, hdump⟩⟩
        · exact .unauthorized hreads hfail
        · exact .unregistered hreads hpass hname
        · exact .undumped ⟨s', hreads, hpass, hjob⟩ hdump
      · rintro contract' job s₂ payload ⟨s₃, hreads', hpass', hjob⟩ hpayload
        obtain ⟨rfl, rfl⟩ := hreads.unique hreads'
        rcases hfails with hfail | ⟨s₁, -, hname | ⟨job, -, hdump⟩⟩
        · exact hpass'.unique.2 e hfail
        · rw [(ServiceRegistry.resolve_error hname).1] at hjob
          exact absurd hjob nofun
        · exact absurd (hdump.symm.trans hpayload) nofun
    · have hboth : Quiet (t ++ t') := by
        unfold Quiet
        rw [List.filterMap_append, hquiet, hquiet', List.append_nil]
      refine .inr ⟨contract, job, s₁, payload, reply, s'', t ++ t', hboth, ?_,
        ⟨s', hreads, hpass, hjob⟩, hdump, hdispatch⟩
      rw [List.append_assoc]
      simp only [Traced.mapError, hroute]

/-! ## The whole run -/

/-- The span of a run was entered, which left the world `s₀`. -/
def Enters (r : SharedReceiverRunner σ) (s s₀ : σ) : Prop :=
  r.observability.enter "shared_receiver.execute" [] s = (.ok (), s₀)

/-- **What one run of `execute` does**, its calls of the dispatcher first, then its result. -/
structure Executes (r : SharedReceiverRunner σ) (raw : RawMessage) (s : σ)
    (o : Outcome (Event OpaqueParameters) σ PyException ReceiverExecutionResult) : Prop where
  once : (o.trace.filterMap dispatchCall?).length ≤ 1
  dispatches_iff : o.trace.filterMap dispatchCall? ≠ [] ↔
    ∃ s₀ contract job s₁, r.Enters s s₀ ∧ r.Accepted raw s₀ contract job s₁
  call : ∀ s₀ contract job s₁, r.Enters s s₀ → r.Accepted raw s₀ contract job s₁ →
    ∃ payload reply s₂, contractBytes contract = .ok payload ∧
      r.jobDispatcher.dispatch job payload contract.envelope.requestId s₁ = (reply, s₂) ∧
      o.trace.filterMap dispatchCall? = [⟨job, payload, contract.envelope.requestId, reply⟩]
  returns : ObservabilityReturned o.trace → ∃ res, o.result = .ok res
  ok_iff : ∀ res, o.result = .ok res →
    (res.status = .ok ↔ ∃ call ∈ o.trace.filterMap dispatchCall?, ∃ d, call.reply = .ok d)
  jobId : ∀ res, o.result = .ok res → ∀ call ∈ o.trace.filterMap dispatchCall?,
    ∀ d, call.reply = .ok d → res.dispatchedJobId = some d.jobId ∧ res.error = none
  error : ∀ res, o.result = .ok res → res.status = .error →
    res.dispatchedJobId = none ∧ ∃ s₀ rid error, r.Enters s s₀ ∧
      r.FailsAt raw s₀ rid (.service error) ∧ res.error = some error
  requestId : ∀ res, o.result = .ok res → ∀ s₀ contract s₁, r.Enters s s₀ →
    r.Reads raw s₀ contract s₁ → res.requestId = contract.envelope.requestId

/-- The document of the contract is not too deep for the serializer, and `json.dumps` writes it. -/
structure Serializable (contract : OpaqueServiceContract) : Prop where
  circular : Pydantic.circular (.obj contract.dumpObject) = none
  dumps : ∃ text, JsonText.dumps (.obj contract.dumpObject) = .ok text

/-- What is dispatched of a contract: the text of its document. -/
theorem contractBytes_eq_ok {contract : OpaqueServiceContract} {payload : Bytes} :
    contractBytes contract = .ok payload ↔
      Pydantic.circular (.obj contract.dumpObject) = none ∧
        ∃ text, JsonText.dumps (.obj contract.dumpObject) = .ok text ∧
          payload = encodeUtf8 text := by
  constructor
  · intro h
    obtain ⟨document, hdocument, hrest⟩ := bind_eq_ok.mp h
    obtain ⟨hcircular, rfl⟩ := OpaqueServiceContract.modelDump_eq_ok.mp hdocument
    obtain ⟨text, htext, hbytes⟩ := bind_eq_ok.mp hrest
    exact ⟨hcircular, text, htext, (Except.ok.inj hbytes).symm⟩
  · rintro ⟨hcircular, text, htext, rfl⟩
    have hdocument := OpaqueServiceContract.modelDump_eq_ok.mpr ⟨hcircular, rfl⟩
    exact bind_eq_ok.mpr ⟨_, hdocument, bind_eq_ok.mpr ⟨text, htext, rfl⟩⟩

theorem serializable_iff {contract : OpaqueServiceContract} :
    Serializable contract ↔ ∃ payload, contractBytes contract = .ok payload := by
  constructor
  · rintro ⟨hcircular, text, htext⟩
    exact ⟨_, contractBytes_eq_ok.mpr ⟨hcircular, text, htext, rfl⟩⟩
  · rintro ⟨payload, hpayload⟩
    obtain ⟨hcircular, text, htext, -⟩ := contractBytes_eq_ok.mp hpayload
    exact ⟨hcircular, text, htext⟩

/-- The ports a stage waits for raise service errors only. -/
structure PortsRaiseService (r : SharedReceiverRunner σ) : Prop where
  decode : ∀ raw, RaisesService (r.message.decode raw)
  authorize : ∀ uri identity, RaisesService (r.authorizer.authorize uri identity)
  dispatch : ∀ job payload rid, RaisesService (r.jobDispatcher.dispatch job payload rid)

omit [Pydantic] [JsonText] in
/-- The URIs of a contract are `AnyUrl`s, so they split. -/
theorem urlsplit_of_mem_contractUris {c : ContractFields OpaqueParameters} {uri : String}
    (h : uri ∈ Steps.contractUris c) : urlsplit uri.toList = .ok (parts uri.toList) := by
  rcases List.mem_append.mp h with h | h
  · obtain ⟨spec, -, rfl⟩ := List.mem_map.mp h
    exact spec.sourceUri.urlsplit_text
  · obtain ⟨spec, -, rfl⟩ := List.mem_map.mp h
    exact spec.destinationUri.urlsplit_text

omit [Pydantic] [JsonText] in
theorem urisFail_isServiceError {authorizer : UriAuthorizationPort σ}
    {schemeAllowlist : SchemeAllowlist} {identity : Identity} {uris : List String} {s : σ}
    {e : PyException}
    (hauthorizer : ∀ uri identity, RaisesService (authorizer.authorize uri identity))
    (huris : ∀ uri ∈ uris, urlsplit uri.toList = .ok (parts uri.toList))
    (h : Steps.UrisFail authorizer schemeAllowlist identity uris s e) :
    e.isServiceError = true := by
  induction h with
  | scheme hcheck => exact SchemeAllowlist.check_error hcheck (huris _ List.mem_cons_self)
  | denied hcheck hauth => exact hauthorizer _ _ _ _ (by rw [hauth])
  | later hcheck hauth hrest ih => exact ih fun uri huri => huris uri (List.mem_cons_of_mem _ huri)

/-- Under such ports the first failure is a service error, where an accepted contract dumps. -/
theorem FailsAt.isServiceError (h : r.PortsRaiseService)
    (hdumps : ∀ contract job s₁, r.Accepted raw s contract job s₁ → Serializable contract)
    {rid : Option UUID} {e : PyException} (hfails : r.FailsAt raw s rid e) :
    e.isServiceError = true := by
  have hport : ∀ {α : Type} {op : PyOp σ α} {s s' : σ}, RaisesService op →
      op s = (.error e, s') → e.isServiceError = true := fun hop heq =>
    hop _ e (by rw [heq])
  cases hfails with
  | undecoded hdecode => exact hport (h.decode raw) hdecode
  | invalid hdecode hvalidate => exact validate_error hvalidate
  | unauthorized hreads huris =>
    exact urisFail_isServiceError h.authorize (fun _ => urlsplit_of_mem_contractUris) huris
  | unregistered hreads huris hname =>
    obtain ⟨message, rfl⟩ := (ServiceRegistry.resolve_error hname).2
    rfl
  | undumped haccepted hdump =>
    obtain ⟨payload, hpayload⟩ := serializable_iff.mp (hdumps _ _ _ haccepted)
    exact absurd (hdump.symm.trans hpayload) nofun
  | undispatched haccepted hdump hdispatch => exact hport (h.dispatch _ _ _) hdispatch

/-- The calls of the dispatcher: the one an accepted contract that dumps asks for, else none. -/
def Calls (r : SharedReceiverRunner σ) (raw : RawMessage) (s : σ) (calls : List DispatchCall) :
    Prop :=
  (calls = [] ∧ ∀ contract job s₁ payload, r.Accepted raw s contract job s₁ →
    contractBytes contract ≠ .ok payload) ∨
    ∃ contract job s₁ payload reply s₂, r.Accepted raw s contract job s₁ ∧
      contractBytes contract = .ok payload ∧
      r.jobDispatcher.dispatch job payload contract.envelope.requestId s₁ = (reply, s₂) ∧
      calls = [⟨job, payload, contract.envelope.requestId, reply⟩]

/-- **How the block ends under the `except` clause**: the dispatcher returned, a stage failed with
a service error that was reported, or with another exception that comes out. -/
inductive Ends (r : SharedReceiverRunner σ) (raw : RawMessage) (s : σ) :
    Except PyException ReceiverExecutionResult → List (Event OpaqueParameters) → Prop
  | dispatched {contract : OpaqueServiceContract} {s₁ : σ} {call : DispatchCall}
      {d : DispatchedJob} {t : List (Event OpaqueParameters)}
      (hreads : r.Reads raw s contract s₁) (hcalls : t.filterMap dispatchCall? = [call])
      (hreply : call.reply = .ok d) :
    Ends r raw s (.ok (okResult contract.envelope.requestId d)) t
  | failed {rid : Option UUID} {error : GrabatusServiceError} {t : List (Event OpaqueParameters)}
      (hfails : r.FailsAt raw s rid (.service error))
      (hcalls : ∀ call ∈ t.filterMap dispatchCall?, ∃ e, call.reply = .error e)
      (reply : Except PyException Unit) :
    Ends r raw s (reply.map fun _ => errorResult rid error) (t ++ [reported error reply])
  | escaped {rid : Option UUID} {cls : ExceptionClass} {message : String}
      {t : List (Event OpaqueParameters)} (hfails : r.FailsAt raw s rid (.raised cls message)) :
    Ends r raw s (.error (.raised cls message)) t

/-- A block that ended in a result. -/
theorem Ends.of_ok {result : Except PyException ReceiverExecutionResult}
    {t : List (Event OpaqueParameters)} {res : ReceiverExecutionResult}
    (h : r.Ends raw s result t) (hres : result = .ok res) :
    (∃ contract s₁ call d, r.Reads raw s contract s₁ ∧ t.filterMap dispatchCall? = [call] ∧
      call.reply = .ok d ∧ res = okResult contract.envelope.requestId d) ∨
    ∃ rid error, r.FailsAt raw s rid (.service error) ∧
      (∀ call ∈ t.filterMap dispatchCall?, ∃ e, call.reply = .error e) ∧
        res = errorResult rid error := by
  cases h with
  | dispatched hreads hcalls hreply =>
    exact .inl ⟨_, _, _, _, hreads, hcalls, hreply, (Except.ok.inj hres).symm⟩
  | @failed rid error t hfails hcalls reply =>
    rcases reply with e | ⟨⟩
    · exact absurd hres nofun
    · refine .inr ⟨rid, error, hfails, ?_, (Except.ok.inj hres).symm⟩
      rw [List.filterMap_append]
      exact fun call hcall => hcalls call (by simpa [reported, dispatchCall?] using hcall)
  | escaped hfails => exact absurd hres nofun

/-- Over such ports a block ends in a result, where the report of a failure returned. -/
theorem Ends.returns {result : Except PyException ReceiverExecutionResult}
    {t : List (Event OpaqueParameters)} (h : r.Ends raw s result t) (hports : r.PortsRaiseService)
    (hdumps : ∀ contract job s₁, r.Accepted raw s contract job s₁ → Serializable contract)
    (hobserved : ObservabilityReturned t) : ∃ res, result = .ok res := by
  cases h with
  | dispatched hreads hcalls hreply => exact ⟨_, rfl⟩
  | failed hfails hcalls reply =>
    rcases reply with e | ⟨⟩
    · exact absurd rfl (hobserved _ (List.mem_append_right _ (List.mem_singleton.mpr rfl)) e)
    · exact ⟨_, rfl⟩
  | escaped hfails => exact absurd (hfails.isServiceError hports hdumps) nofun

/-- The clause, on a block that failed. -/
theorem ends_of_error (r : SharedReceiverRunner σ) (raw : RawMessage) {s s' : σ}
    {rid : Option UUID} {e : PyException} {t : List (Event OpaqueParameters)}
    (hrun : r.tryBlock raw s = ⟨.error ⟨rid, e⟩, s', t⟩) (hfails : r.FailsAt raw s rid e)
    (hcalls : ∀ call ∈ t.filterMap dispatchCall?, ∃ e, call.reply = .error e) :
    r.Ends raw s (Traced.handle (r.tryBlock raw) r.exceptServiceError s).result
        (Traced.handle (r.tryBlock raw) r.exceptServiceError s).trace ∧
      (Traced.handle (r.tryBlock raw) r.exceptServiceError s).trace.filterMap dispatchCall? =
        t.filterMap dispatchCall? := by
  rw [Traced.run_handle_error hrun]
  rcases e with error | ⟨cls, message⟩
  · have hclause : r.exceptServiceError ⟨rid, .service error⟩ s' = _ := Traced.call_bind_pure
      (r.observability.metric "shared_receiver.errors" (.finite 1)
        [("error_code", error.errorCode)])
      (reported error) (fun _ => errorResult rid error) s'
    rw [hclause]
    refine ⟨.failed hfails hcalls _, ?_⟩
    simp [reported, dispatchCall?]
  · have hclause : r.exceptServiceError ⟨rid, .raised cls message⟩ s' =
        ⟨.error (.raised cls message), s', []⟩ := rfl
    rw [hclause]
    exact ⟨.escaped hfails, by rw [List.append_nil]⟩

/-- **The block under its clause.** -/
theorem block_ends (r : SharedReceiverRunner σ) (raw : RawMessage) (s : σ) :
    r.Ends raw s (Traced.handle (r.tryBlock raw) r.exceptServiceError s).result
        (Traced.handle (r.tryBlock raw) r.exceptServiceError s).trace ∧
      r.Calls raw s ((Traced.handle (r.tryBlock raw) r.exceptServiceError s).trace.filterMap
        dispatchCall?) := by
  rcases r.tryBlock_cases raw s with ⟨rid, e, s', t, hquiet, hrun, hfails, hnot⟩ |
    ⟨contract, job, s₁, payload, e | d, s', t, hquiet, hrun, haccepted, hdump, hdispatch⟩
  · obtain ⟨hends, hcalls⟩ := r.ends_of_error raw hrun hfails fun call hc => by
      rw [hquiet] at hc
      exact absurd hc List.not_mem_nil
    exact ⟨hends, .inl ⟨hcalls.trans hquiet, hnot⟩⟩
  · have hlist : (t ++ [Event.dispatch job payload contract.envelope.requestId
        (.error e)]).filterMap dispatchCall? =
          [⟨job, payload, contract.envelope.requestId, .error e⟩] := by
      rw [List.filterMap_append, hquiet]
      rfl
    obtain ⟨hends, hcalls⟩ := r.ends_of_error raw hrun (.undispatched haccepted hdump hdispatch)
      fun call hc => by
        rw [hlist, List.mem_singleton] at hc
        exact ⟨e, hc ▸ rfl⟩
    exact ⟨hends, .inr ⟨contract, job, s₁, payload, .error e, s', haccepted, hdump, hdispatch,
      hcalls.trans hlist⟩⟩
  · have hlist : (t ++ [Event.dispatch job payload contract.envelope.requestId
        (.ok d)]).filterMap dispatchCall? =
          [⟨job, payload, contract.envelope.requestId, .ok d⟩] := by
      rw [List.filterMap_append, hquiet]
      rfl
    obtain ⟨s₂, hreads, -, -⟩ := id haccepted
    rw [Traced.run_handle_ok hrun]
    exact ⟨.dispatched hreads hlist rfl,
      .inr ⟨contract, job, s₁, payload, .ok d, s', haccepted, hdump, hdispatch, hlist⟩⟩

section

variable {calls : List DispatchCall}

theorem Calls.once (h : r.Calls raw s calls) : calls.length ≤ 1 := by
  rcases h with ⟨rfl, -⟩ | ⟨_, _, _, _, _, _, -, -, -, rfl⟩
  · exact Nat.zero_le 1
  · exact Nat.le_refl 1

theorem Calls.accepted (h : r.Calls raw s calls) (hne : calls ≠ []) :
    ∃ contract job s₁, r.Accepted raw s contract job s₁ := by
  rcases h with ⟨rfl, -⟩ | ⟨contract, job, s₁, _, _, _, haccepted, -, -, -⟩
  · exact absurd rfl hne
  · exact ⟨contract, job, s₁, haccepted⟩

/-- An accepted contract that dumps is dispatched. -/
theorem Calls.call (h : r.Calls raw s calls) {contract : OpaqueServiceContract} {job : String}
    {s₁ : σ} {payload : Bytes} (haccepted : r.Accepted raw s contract job s₁)
    (hdump : contractBytes contract = .ok payload) :
    ∃ reply s₂, r.jobDispatcher.dispatch job payload contract.envelope.requestId s₁ =
        (reply, s₂) ∧
      calls = [⟨job, payload, contract.envelope.requestId, reply⟩] := by
  rcases h with ⟨rfl, hnot⟩ |
    ⟨contract', job', s₁', payload', reply, s₂, haccepted', hdump', hdispatch, rfl⟩
  · exact absurd hdump (hnot contract job s₁ payload haccepted)
  · obtain ⟨rfl, rfl, rfl⟩ := haccepted'.unique haccepted
    obtain rfl := Except.ok.inj (hdump'.symm.trans hdump)
    exact ⟨reply, s₂, hdispatch, rfl⟩

end

/-- A run whose span cannot be entered does nothing else. -/
theorem Executes.of_not_entered {e : PyException} {s' : σ}
    (h : ∀ s₀, ¬ r.Enters s s₀) : r.Executes raw s ⟨.error e, s', [entered (.error e)]⟩ where
  once := Nat.zero_le 1
  dispatches_iff := by
    constructor
    · exact fun hne => absurd rfl hne
    · rintro ⟨s₀, contract, job, s₁, henter, -⟩
      exact absurd henter (h s₀)
  call := fun s₀ _ _ _ henter => absurd henter (h s₀)
  returns := fun hobs => absurd rfl (hobs _ (List.mem_singleton.mpr rfl) e)
  ok_iff := nofun
  jobId := nofun
  error := nofun
  requestId := nofun

/-- **What the span does**: nothing runs when it cannot be entered; otherwise the block runs, and
its result stands unless leaving the span raises. -/
theorem execute_cases (r : SharedReceiverRunner σ) (raw : RawMessage) (s : σ) :
    (∃ e s', (∀ s₀, ¬ r.Enters s s₀) ∧
      r.execute raw s = ⟨.error e, s', [entered (.error e)]⟩) ∨
    ∃ s₀ s' reply, r.Enters s s₀ ∧ r.execute raw s =
      ⟨reply.bind fun _ => (Traced.handle (r.tryBlock raw) r.exceptServiceError s₀).result, s',
        entered (.ok ()) ::
          ((Traced.handle (r.tryBlock raw) r.exceptServiceError s₀).trace ++ [exited reply])⟩ := by
  rcases hin : r.observability.enter "shared_receiver.execute" [] s with ⟨e | ⟨⟩, s₀⟩
  · refine .inl ⟨e, s₀, fun s₁ h => ?_, Traced.run_within_error (by simp [Traced.call, hin])⟩
    cases (Prod.mk.inj (hin.symm.trans h)).1
  · have henter : Traced.call (r.observability.enter "shared_receiver.execute" []) entered s =
        ⟨.ok (), s₀, [entered (.ok ())]⟩ := by simp [Traced.call, hin]
    rcases hout : r.observability.exit "shared_receiver.execute"
      (Traced.handle (r.tryBlock raw) r.exceptServiceError s₀).world with ⟨e | ⟨⟩, s'⟩
    · exact .inr ⟨s₀, s', .error e, hin, Traced.run_within_exit_error henter
        (by simp [Traced.call, hout])⟩
    · exact .inr ⟨s₀, s', .ok (), hin, Traced.run_within_ok henter (by simp [Traced.call, hout])⟩

/-- The calls of the dispatcher in a run are those of its block. -/
theorem dispatchCalls_execute (r : SharedReceiverRunner σ) (raw : RawMessage) {s s₀ : σ}
    (henters : r.Enters s s₀) :
    r.Calls raw s₀ ((r.execute raw s).trace.filterMap dispatchCall?) := by
  rcases r.execute_cases raw s with ⟨e, s', hnot, hrun⟩ | ⟨s₁, s', reply, henters', hrun⟩
  · exact absurd henters (hnot s₀)
  · obtain rfl : s₁ = s₀ := (Prod.mk.inj (henters'.symm.trans henters)).2
    have hin : dispatchCall? (entered (.ok ())) = none := rfl
    have hout : dispatchCall? (exited reply) = none := rfl
    rw [hrun, List.filterMap_cons_none hin, List.filterMap_append, List.filterMap_cons_none hout,
      List.filterMap_nil, List.append_nil]
    exact (r.block_ends raw s₁).2

/-- A run over ports that raise service errors only, where an accepted contract dumps. -/
theorem executes_of_serializable (r : SharedReceiverRunner σ) (h : r.PortsRaiseService)
    {raw : RawMessage} {s : σ} (hdumps : ∀ s₀ contract job s₁, r.Enters s s₀ →
      r.Accepted raw s₀ contract job s₁ → Serializable contract) :
    r.Executes raw s (r.execute raw s) := by
  rcases r.execute_cases raw s with ⟨e, s', hnot, hrun⟩ | ⟨s₀, s', reply, henter, hrun⟩
  · rw [hrun]
    exact Executes.of_not_entered hnot
  · have hends := (r.block_ends raw s₀).1
    have hcalls := r.dispatchCalls_execute raw henter
    have henters : ∀ {s₁}, r.Enters s s₁ → s₁ = s₀ := fun h₁ =>
      (Prod.mk.inj (h₁.symm.trans henter)).2
    have hcall : ∀ {contract job s₁}, r.Accepted raw s₀ contract job s₁ →
        ∃ payload reply s₂, contractBytes contract = .ok payload ∧
          r.jobDispatcher.dispatch job payload contract.envelope.requestId s₁ = (reply, s₂) ∧
          (r.execute raw s).trace.filterMap dispatchCall? =
            [⟨job, payload, contract.envelope.requestId, reply⟩] := by
      intro contract job s₁ haccepted
      obtain ⟨payload, hdump⟩ := serializable_iff.mp (hdumps _ _ _ _ henter haccepted)
      obtain ⟨reply, s₂, hdispatch, hlist⟩ := hcalls.call haccepted hdump
      exact ⟨payload, reply, s₂, hdump, hdispatch, hlist⟩
    have htrace : (r.execute raw s).trace.filterMap dispatchCall? =
        (Traced.handle (r.tryBlock raw) r.exceptServiceError s₀).trace.filterMap dispatchCall? := by
      have hin : dispatchCall? (entered (.ok ())) = none := rfl
      have hout : dispatchCall? (exited reply) = none := rfl
      rw [hrun, List.filterMap_cons_none hin, List.filterMap_append,
        List.filterMap_cons_none hout, List.filterMap_nil, List.append_nil]
    have hresult : ∀ {res}, (r.execute raw s).result = .ok res →
        (Traced.handle (r.tryBlock raw) r.exceptServiceError s₀).result = .ok res := by
      intro res hres
      rw [hrun] at hres
      rcases reply with e | ⟨⟩
      · exact absurd hres nofun
      · exact hres
    exact {
      once := hcalls.once
      dispatches_iff := by
        constructor
        · intro hne
          obtain ⟨contract, job, s₁, haccepted⟩ := hcalls.accepted hne
          exact ⟨s₀, contract, job, s₁, henter, haccepted⟩
        · rintro ⟨s₂, contract, job, s₁, henter', haccepted⟩
          obtain ⟨payload, reply, s₂, -, -, hlist⟩ := hcall (henters henter' ▸ haccepted)
          exact hlist ▸ List.cons_ne_nil _ _
      call := fun s₂ contract job s₁ he haccepted => hcall (henters he ▸ haccepted)
      returns := fun hobserved => by
        rw [hrun] at hobserved ⊢
        rcases reply with e | ⟨⟩
        · exact absurd rfl (hobserved (exited (.error e)) (by simp) e)
        · exact hends.returns h (fun contract job s₁ => hdumps s₀ contract job s₁ henter)
            fun x hx => hobserved x (by simp [hx])
      ok_iff := fun res hres => by
        rw [htrace]
        rcases hends.of_ok (hresult hres) with ⟨contract, s₁, call, d, -, hlist, hreply, rfl⟩ |
          ⟨rid, error, -, hfailed, rfl⟩
        · exact ⟨fun _ => ⟨call, by simp [hlist], d, hreply⟩, fun _ => rfl⟩
        · refine ⟨nofun, ?_⟩
          rintro ⟨call, hcall, d, hreply⟩
          obtain ⟨e, he⟩ := hfailed call hcall
          exact absurd (he.symm.trans hreply) nofun
      jobId := fun res hres call hcall d hreply => by
        rw [htrace] at hcall
        rcases hends.of_ok (hresult hres) with ⟨contract, s₁, call', d', -, hlist, hreply', rfl⟩ |
          ⟨rid, error, -, hfailed, rfl⟩
        · rw [hlist, List.mem_singleton] at hcall
          rw [hcall, hreply'] at hreply
          obtain rfl := Except.ok.inj hreply
          exact ⟨rfl, rfl⟩
        · obtain ⟨e, he⟩ := hfailed call hcall
          exact absurd (he.symm.trans hreply) nofun
      error := fun res hres hstatus => by
        rcases hends.of_ok (hresult hres) with ⟨contract, s₁, call, d, -, -, -, rfl⟩ |
          ⟨rid, error, hfails, -, rfl⟩
        · exact absurd hstatus nofun
        · exact ⟨rfl, s₀, rid, error, henter, hfails, rfl⟩
      requestId := fun res hres s₂ contract s₁ he hreads => by
        obtain rfl := henters he
        rcases hends.of_ok (hresult hres) with ⟨contract', s₁', call, d, hreads', -, -, rfl⟩ |
          ⟨rid, error, hfails, -, rfl⟩
        · rw [(hreads'.unique hreads).1]
          rfl
        · rw [hfails.requestId hreads]
          rfl }

/-- **What `execute` does**, over ports that raise service errors only: it dispatches once or not
at all, exactly when the envelope is accepted, and its result tells which. It does so exactly when
an accepted contract can be serialized; otherwise the exception of the dump comes out. -/
theorem receiver_executes_iff (r : SharedReceiverRunner σ) (h : r.PortsRaiseService)
    (raw : RawMessage) (s : σ) :
    r.Executes raw s (r.execute raw s) ↔ ∀ s₀ contract job s₁, r.Enters s s₀ →
      r.Accepted raw s₀ contract job s₁ → Serializable contract := by
  constructor
  · intro hexecutes s₀ contract job s₁ henters haccepted
    obtain ⟨payload, -, -, hdump, -⟩ := hexecutes.call s₀ contract job s₁ henters haccepted
    exact serializable_iff.mpr ⟨payload, hdump⟩
  · exact r.executes_of_serializable h

/-- What was dispatched is the dump of an accepted contract. -/
theorem accepted_of_dispatched {job : String} {payload : Bytes} {requestId : UUID}
    {reply : Except PyException DispatchedJob}
    (h : .dispatch job payload requestId reply ∈ (r.execute raw s).trace) :
    ∃ contract s₀ s₁, r.Accepted raw s₀ contract job s₁ ∧
      contractBytes contract = .ok payload := by
  have hcall : (⟨job, payload, requestId, reply⟩ : DispatchCall) ∈
      (r.execute raw s).trace.filterMap dispatchCall? := List.mem_filterMap.mpr ⟨_, h, rfl⟩
  rcases r.execute_cases raw s with ⟨e, s', -, hrun⟩ | ⟨s₀, s', reply', henters, -⟩
  · rw [hrun] at h
    exact nomatch List.mem_singleton.mp h
  · rcases r.dispatchCalls_execute raw henters with
      ⟨hnone, -⟩ | ⟨contract, job', s₁, payload, reply, s₂, haccepted, hdump, -, hcalls⟩
    · rw [hnone] at hcall
      exact absurd hcall List.not_mem_nil
    · rw [hcalls] at hcall
      obtain ⟨rfl, rfl, -, -⟩ := DispatchCall.mk.inj (List.mem_singleton.mp hcall)
      exact ⟨contract, s₀, s₁, haccepted, hdump⟩

/-- An accepted contract that dumps is dispatched. -/
theorem dispatched_of_accepted {contract : OpaqueServiceContract} {job : String}
    {payload : Bytes} {s₀ s₁ : σ} (henters : r.Enters s s₀)
    (haccepted : r.Accepted raw s₀ contract job s₁)
    (hdump : contractBytes contract = .ok payload) :
    ∃ reply, .dispatch job payload contract.envelope.requestId reply ∈
      (r.execute raw s).trace := by
  obtain ⟨reply, s₂, -, hcalls⟩ := (r.dispatchCalls_execute raw henters).call haccepted hdump
  have hmem := List.mem_singleton_self
    (⟨job, payload, contract.envelope.requestId, reply⟩ : DispatchCall)
  rw [← hcalls] at hmem
  obtain ⟨e, he, hcall⟩ := List.mem_filterMap.mp hmem
  refine ⟨reply, ?_⟩
  cases e with
  | dispatch _ _ _ _ =>
    obtain ⟨rfl, rfl, rfl, rfl⟩ := DispatchCall.mk.inj (Option.some.inj hcall)
    exact he
  | _ => exact nomatch hcall

end SharedReceiverRunner

end

/-- Where every URI may be used, only the scheme is looked at. -/
theorem urisPass_allowAll [UnicodeData] {σ : Type} {schemeAllowlist : SchemeAllowlist}
    {identity : Identity}
    {uris : List String} (h : ∀ uri ∈ uris, schemeAllowlist.check uri = .ok ()) (s : σ) :
    Steps.UrisPass (allowAllPolicy σ) schemeAllowlist identity uris s s := by
  induction uris with
  | nil => exact .nil s
  | cons uri uris ih =>
    exact .cons (h uri List.mem_cons_self) rfl (ih fun u hu => h u (List.mem_cons_of_mem uri hu))

namespace Sample

/-- A shared receiver over the in-memory ports; any message is the contract. -/
def sharedReceiver [UnicodeData] (registry : Dict String String) :
    SharedReceiverRunner FakeWorld where
  message := ⟨fun _ => pure contract⟩
  authorizer := allowAllPolicy _
  jobDispatcher := inMemoryJobDispatcher
  observability := nullObservability _
  clock := frozenClock _ now
  schemeAllowlist := ⟨{"gs"}⟩
  registry := ⟨registry⟩
  mode := .sharedReceiver

end Sample

/-- The in-memory ports raise nothing. -/
theorem sample_portsRaiseService [UnicodeData] (registry : Dict String String) :
    (Sample.sharedReceiver registry).PortsRaiseService where
  decode _ := RaisesService.of_ok fun _ => rfl
  authorize _ _ := RaisesService.of_ok fun _ => rfl
  dispatch _ _ _ := RaisesService.of_ok fun _ => rfl

section

attribute [local instance] UnicodeData.ascii

/-- The receiver of the sample, whose service is registered. -/
abbrev Sample.registered : SharedReceiverRunner FakeWorld :=
  Sample.sharedReceiver (Dict.empty.set "sample" "sample-worker")

namespace SharedReceiverRunner

section

attribute [local instance] Sample.pydantic Sample.jsonText

theorem receiver_executes_iff_sample :
    Sample.registered.Executes Sample.raw Sample.world
      (Sample.registered.execute Sample.raw Sample.world) :=
  (receiver_executes_iff _ (sample_portsRaiseService _) _ _).mpr fun _ _ _ _ _ _ => ⟨rfl, _, rfl⟩

end

/-- A list in a list, `n` deep. -/
def nested : Nat → Json
  | 0 => .arr []
  | n + 1 => .arr [nested n]

/-- The contract of the sample with parameters of 300 levels. -/
def deepContract : JsonObject :=
  Sample.contract.map fun e => if e.1 = "parameters" then (e.1, .obj [("a", nested 300)]) else e

/-- The receiver of the sample over a message with deep parameters. -/
abbrev deepReceiver : SharedReceiverRunner FakeWorld :=
  { Sample.registered with message := ⟨fun _ => pure deepContract⟩ }

/-- The leaf types of the sample, and a serializer that goes down 255 levels. -/
@[reducible] def guardedPydantic : Pydantic :=
  { Leaves.pydantic [] with
    circular := fun j => if 255 < Leaves.depth j then
      some (valueError "Circular reference detected (depth exceeded)") else none }

attribute [local instance] guardedPydantic Sample.jsonText

/-- **Parameters nested too deep for the serializer**: the envelope passes every check, and a
`ValueError` comes out of `execute`. -/
theorem deep_parameters_escape :
    deepReceiver.PortsRaiseService ∧
      ¬ deepReceiver.Executes Sample.raw Sample.world
        (deepReceiver.execute Sample.raw Sample.world) := by
  refine ⟨⟨fun _ => RaisesService.of_ok fun _ => rfl, fun _ _ => RaisesService.of_ok fun _ => rfl,
    fun _ _ _ => RaisesService.of_ok fun _ => rfl⟩, fun hexecutes => ?_⟩
  have hescaped : escaped? (deepReceiver.execute Sample.raw Sample.world).result =
      some .valueError := by decide +kernel
  have hobserved : (deepReceiver.execute Sample.raw Sample.world).trace.filterMap
      Event.observed? = [.ok (), .ok ()] := by decide +kernel
  obtain ⟨res, hres⟩ := hexecutes.returns fun x hx e he => by
    have hmem := List.mem_filterMap.mpr ⟨x, hx, he⟩
    rw [hobserved] at hmem
    simp at hmem
  rw [hres] at hescaped
  exact absurd hescaped nofun

end SharedReceiverRunner

end

end Grabatus
