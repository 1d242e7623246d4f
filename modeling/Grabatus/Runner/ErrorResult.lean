import Grabatus.Runner.Failure
import Grabatus.Testing.Fakes

/-!
# How a failed run ends

Over the `except` clauses and `_make_error_result` of `runner/runner.py`. Once the contract
validated, a service error ends the run with a metric and an error result that carries the
contract's `request_id` (`error_reported`). **The webhook is told nothing of it**: the only call
to it a failed run can have made is the notification of success, and then that call's failure is
the error.
-/

namespace Grabatus

open Grabatus.Lib Grabatus.Python

variable [UnicodeData] {σ P : Type}

/-! ## The call to the webhook -/

/-- A call to the webhook. -/
def Event.IsNotify : Event P → Prop
  | .notify _ _ _ => True
  | _ => False

theorem saveOutputs_not_isNotify (contract : BaseServiceContract P)
    (credentials : CredentialBundle) (result : ComputeResult) (storage : StoragePort σ) :
    Traced.Emits (fun e => ¬ e.IsNotify)
      (Steps.saveOutputs contract credentials result storage) := by
  refine (Traced.Emits.collect (fun spec => ?_) _).bind fun _ => Traced.Emits.pure _ _
  refine (Traced.Emits.lift _ _).bind fun _ => (Traced.Emits.lift _ _).bind fun _ => ?_
  exact Traced.Emits.call fun _ => id

/-- **`publish` notifies of success only**, and the reply decides how it ends. -/
theorem publish_notify {r : ServiceRunner σ P} {contract : BaseServiceContract P}
    {produced : ServiceRunner.Produced} {s : σ} {callback : Callback} {payload : JsonObject}
    {reply : Except PyException WebhookAck} {e : PyException}
    (hmem : .notify callback payload reply ∈ (r.publish contract produced s).trace)
    (he : (r.publish contract produced s).result = .error e) :
    reply = .error e ∧ callback = contract.callback ∧
      ∃ receipts, payload = ServiceRunner.buildSuccessPayload contract.envelope.requestId receipts
        produced.result.metadata := by
  have hsave := saveOutputs_not_isNotify contract produced.credentials produced.result r.storage s
  rcases Traced.bind_error he with ⟨s₁, t, hs, hrun⟩ | ⟨receipts, s₁, t, hs, hrest, htr, -⟩
  · rw [hs] at hsave
    rw [show r.publish contract produced s = _ from hrun] at hmem
    exact absurd trivial (hsave _ hmem)
  · rw [hs] at hsave
    rw [show (r.publish contract produced s).trace = _ from htr] at hmem
    rcases List.mem_append.mp hmem with hmem | hmem
    · exact absurd trivial (hsave _ hmem)
    · rcases Traced.bind_error hrest with ⟨s₂, t', hcall, hrun⟩ | ⟨ack, s₂, t', -, hpure, -⟩
      · rw [hrun, Traced.trace_of_call_error hcall] at hmem
        obtain ⟨rfl, rfl, rfl⟩ := Event.notify.inj (List.mem_singleton.mp hmem)
        exact ⟨rfl, rfl, receipts, rfl⟩
      · exact absurd hpure nofun

variable [Pydantic]

/-! ## A failure after the contract validated -/

/-- The run of a contract fails with `error`, once the contract is read. -/
def ServiceRunner.FailsAfterValidation (r : ServiceRunner σ P) (raw : RawMessage) (s : σ)
    (contract : BaseServiceContract P) (error : GrabatusServiceError) : Prop :=
  ∃ s₀ s₁ t,
    r.observability.enter "service_runner.execute" [("mode", r.mode.value)] s = (.ok (), s₀) ∧
      r.receive raw s₀ = ⟨.ok contract, s₁, t⟩ ∧
        (r.serve contract s₁).result = .error (.service error)

omit [Pydantic] in
/-- What the outcome of a failed run tells: one metric, an error result when the metric and the
span let it out, and no notification but a failed one of success. -/
structure ErrorReported (r : ServiceRunner σ P) (contract : BaseServiceContract P)
    (error : GrabatusServiceError) (o : Outcome (Event P) σ PyException (ExecutionResult P)) :
    Prop where
  ends : ∃ t reported exited,
    o.trace = r.entered (.ok ()) :: (t ++ [r.reported error reported]) ++
        [ServiceRunner.exited exited] ∧
      (∀ e ∈ t, e.stage ≠ .observe) ∧
        o.result = exited.bind fun _ => reported.map fun _ =>
          ServiceRunner.errorResult (some contract.envelope.requestId) error
  notified : ∀ callback payload reply, .notify callback payload reply ∈ o.trace →
    reply = .error (.service error) ∧ callback = contract.callback ∧
      ∃ receipts metadata, payload =
        ServiceRunner.buildSuccessPayload contract.envelope.requestId receipts metadata

/-- A failed `serve` notified of success only, and failed by it. -/
theorem serve_notify {r : ServiceRunner σ P} {contract : BaseServiceContract P} {s : σ}
    {callback : Callback} {payload : JsonObject} {reply : Except PyException WebhookAck}
    {e : PyException} (hmem : .notify callback payload reply ∈ (r.serve contract s).trace)
    (he : (r.serve contract s).result = .error e) :
    reply = .error e ∧ callback = contract.callback ∧ ∃ receipts metadata,
      payload =
        ServiceRunner.buildSuccessPayload contract.envelope.requestId receipts metadata := by
  have hcheck := r.check_stage contract s
  rcases Traced.bind_error he with ⟨s₁, t, hc, hrun⟩ | ⟨⟨⟩, s₁, t, hc, hrest, htr, -⟩
  · rw [hc] at hcheck
    rw [show r.serve contract s = _ from hrun] at hmem
    exact absurd (hcheck _ hmem) nofun
  · rw [hc] at hcheck
    rw [show (r.serve contract s).trace = _ from htr] at hmem
    have hproduce := r.produce_stage contract s₁
    rcases List.mem_append.mp hmem with hmem | hmem
    · exact absurd (hcheck _ hmem) nofun
    · rcases Traced.bind_error hrest with ⟨s₂, t', hp, hrun⟩ | ⟨produced, s₂, t', hp, hpub, htr', -⟩
      · rw [hp] at hproduce
        rw [hrun] at hmem
        exact absurd (hproduce _ hmem) (not_or.mpr ⟨nofun, nofun⟩)
      · rw [hp] at hproduce
        rw [htr'] at hmem
        rcases List.mem_append.mp hmem with hmem | hmem
        · exact absurd (hproduce _ hmem) (not_or.mpr ⟨nofun, nofun⟩)
        · obtain ⟨hreply, hcallback, receipts, hpayload⟩ := publish_notify hmem hpub
          exact ⟨hreply, hcallback, receipts, _, hpayload⟩

variable [JsonText]

/-- **A failure after the contract validated ends with a metric and an error result**, and with no
notification of it. -/
theorem error_reported {r : ServiceRunner σ P} {raw : RawMessage} {s : σ}
    {contract : BaseServiceContract P} {error : GrabatusServiceError}
    (hmode : r.mode = .monolith ∨ r.mode = .worker)
    (h : r.FailsAfterValidation raw s contract error) :
    ErrorReported r contract error (r.execute raw s) := by
  obtain ⟨s₀, s₁, t, hin, hreceive, hserve⟩ := h
  obtain ⟨s', reply, hrun⟩ := ServiceRunner.execute_entered raw hin
  have hreceived := r.receive_stage raw s₀
  rw [hreceive] at hreceived
  have hbranch : ∃ reported, (r.branch raw s₀).trace =
      (t ++ (r.serve contract s₁).trace) ++ [r.reported error reported] ∧
      (r.branch raw s₀).result = reported.map fun _ =>
        ServiceRunner.errorResult (some contract.envelope.requestId) error := by
    have hbranch := r.branch_run raw s₀
    generalize (r.branch raw s₀).result = result, (r.branch raw s₀).trace = trace at hbranch ⊢
    cases hbranch with
    | unread hreceive' => exact absurd (hreceive.symm.trans hreceive') nofun
    | read hreceive' hcloses =>
      obtain ⟨hcontract, rfl, rfl⟩ := Outcome.mk.inj (hreceive'.symm.trans hreceive)
      obtain rfl := Except.ok.inj hcontract
      rw [ServiceRunner.rest_eq_serve hmode, hserve] at hcloses
      cases hcloses with
      | reported _ _ reported => exact ⟨reported, rfl, rfl⟩
  obtain ⟨reported, htrace, hresult⟩ := hbranch
  have hquiet : ∀ e ∈ t ++ (r.serve contract s₁).trace, e.stage ≠ .observe := by
    intro e he hobserve
    rcases List.mem_append.mp he with he | he
    · exact absurd ((hreceived e he).symm.trans hobserve) nofun
    · rw [← ServiceRunner.rest_eq_serve hmode] at he
      exact (r.rest_stage contract s₁ e he).2.1 hobserve
  constructor
  · refine ⟨t ++ (r.serve contract s₁).trace, reported, reply, ?_, hquiet, ?_⟩
    · rw [hrun, htrace]
      rfl
    · rw [hrun, hresult]
  · intro callback payload reply' hmem
    rw [hrun, htrace] at hmem
    simp only [List.mem_cons, List.mem_append, List.not_mem_nil, or_false] at hmem
    rcases hmem with hmem | ((hmem | hmem) | hmem) | hmem
    · exact absurd hmem nofun
    · exact absurd (hreceived _ hmem) nofun
    · exact serve_notify hmem hserve
    · exact absurd hmem nofun
    · exact absurd hmem nofun

omit [Pydantic] [JsonText] in
/-- The webhook was told of the failure: the documented error payload reached the callback. -/
def ErrorNotified (contract : BaseServiceContract P) (error : GrabatusServiceError)
    (trace : List (Event P)) : Prop :=
  ∃ payload details reply, .notify contract.callback payload reply ∈ trace ∧
    Dict.lookup "request_id" payload = some (.str contract.envelope.requestId.str) ∧
    Dict.lookup "status" payload = some (.str Status.error.value) ∧
    Dict.lookup "error" payload = some (.obj details) ∧
    Dict.lookup "code" details = some (.str error.errorCode) ∧
    Dict.lookup "message" details = some (.str error.message)

/-- **The webhook is never told of a failure**, whatever failed and wherever it did: the run ends
with its metric and its error result, and the one notification it can have made is that of success,
which then is what failed. -/
theorem error_never_notified {r : ServiceRunner σ P} {raw : RawMessage} {s : σ}
    {contract : BaseServiceContract P} {error : GrabatusServiceError}
    (hmode : r.mode = .monolith ∨ r.mode = .worker)
    (h : r.FailsAfterValidation raw s contract error) :
    ErrorReported r contract error (r.execute raw s) ∧
      ¬ ErrorNotified contract error (r.execute raw s).trace := by
  have hreported := error_reported hmode h
  refine ⟨hreported, ?_⟩
  rintro ⟨payload, details, reply, hmem, -, hstatus, -⟩
  obtain ⟨-, -, receipts, metadata, rfl⟩ := hreported.notified _ _ _ hmem
  have hok : Dict.lookup "status" (ServiceRunner.buildSuccessPayload contract.envelope.requestId
      receipts metadata) = some (.str Status.ok.value) := rfl
  rw [hok, Option.some.injEq, Json.str.injEq] at hstatus
  exact absurd hstatus (by decide)

end Grabatus

/-! ## A rejected contract -/

namespace Grabatus

open Grabatus.Lib Grabatus.Python

attribute [local instance] UnicodeData.ascii Sample.pydantic Sample.jsonText

/-- The error a run fails with once its contract validated. -/
def failureOf {σ P : Type} (r : ServiceRunner σ P) (raw : RawMessage) (s : σ) :
    Option GrabatusServiceError :=
  match r.receive raw s with
  | ⟨.ok contract, s₁, _⟩ =>
    match (r.serve contract s₁).result with
    | .error (.service error) => some error
    | _ => none
  | _ => none

/-- The sample contract under a policy that denies every URI. -/
theorem sample_rejected : ∃ contract error,
    (Sample.runner (rejectAllPolicy _) Sample.outputs true .monolith).FailsAfterValidation
      Sample.raw Sample.world contract error := by
  have hrun : (failureOf (Sample.runner (rejectAllPolicy _) Sample.outputs true .monolith)
      Sample.raw Sample.world).isSome = true := by decide +kernel
  obtain ⟨error, herror⟩ := Option.isSome_iff_exists.mp hrun
  unfold failureOf at herror
  split at herror
  · rename_i contract s₁ t hreceive
    split at herror
    · rename_i error' hserve
      exact ⟨contract, error', Sample.world, s₁, t, rfl, hreceive, hserve⟩
    · exact absurd herror nofun
  · exact absurd herror nofun

theorem error_never_notified_rejected : ∃ contract error,
    ErrorReported (Sample.runner (rejectAllPolicy _) Sample.outputs true .monolith) contract error
        ((Sample.runner (rejectAllPolicy _) Sample.outputs true .monolith).execute Sample.raw
          Sample.world) ∧
      ¬ ErrorNotified contract error
        ((Sample.runner (rejectAllPolicy _) Sample.outputs true .monolith).execute Sample.raw
          Sample.world).trace := by
  obtain ⟨contract, error, hfails⟩ := sample_rejected
  exact ⟨contract, error, error_never_notified (.inl rfl) hfails⟩

/-- A contract whose URIs are denied ends with an error, and the webhook hears nothing. -/
theorem rejected_in_silence : ∃ contract error,
    (Sample.runner (rejectAllPolicy _) Sample.outputs true .monolith).FailsAfterValidation
        Sample.raw Sample.world contract error ∧
      ¬ ErrorNotified contract error
        ((Sample.runner (rejectAllPolicy _) Sample.outputs true .monolith).execute Sample.raw
          Sample.world).trace := by
  obtain ⟨contract, error, hfails⟩ := sample_rejected
  refine ⟨contract, error, hfails, ?_⟩
  have hsilent : (((Sample.runner (rejectAllPolicy _) Sample.outputs true .monolith).execute
      Sample.raw Sample.world).trace.all fun e => e.stage != .publish) = true := by decide +kernel
  rintro ⟨payload, details, reply, hmem, -⟩
  have hstage := List.all_eq_true.mp hsilent _ hmem
  exact absurd rfl (bne_iff_ne.mp hstage)

end Grabatus
