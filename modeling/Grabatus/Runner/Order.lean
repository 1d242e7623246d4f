import Grabatus.Runner.Runs
import Grabatus.Runner.Transcript

/-!
# The order of a run's effects

Over `runner/steps.py` and `runner/runner.py`.

* **The plan** (`plan`): secrets for inputs then outputs, the reads, the backend, the writes, the
  webhook. Every step follows its part of it (`resolveCredentials_follows` and its siblings), so a
  run follows the whole.
* **The guards**: an effect comes after `check` returned (`Admitted`), and a publication after
  the readout gate let the result through (`GatePassed`). Both are facts about the calls that came
  before, so they hold wherever the run stops.
* A readout that explains one contract explains no other (`explains_inj`).

`effects_in_order` puts them together over `execute`.
-/

namespace Grabatus

open Grabatus.Lib Grabatus.Python

variable [UnicodeData] {σ P : Type}

/-! ## The plan -/

/-- The resolution of one `credential_ref`. -/
def resolutions : Option SecretRef → List Effect
  | none => []
  | some ref => [.resolve ref]

/-- The secret resolutions of a contract: inputs, then outputs. -/
def resolvePlan (c : ContractFields P) : List Effect :=
  c.inputs.toList.flatMap (fun s => resolutions s.credentialRef) ++
    c.outputs.toList.flatMap fun s => resolutions s.credentialRef

/-- The reads of a contract. -/
def readPlan (c : ContractFields P) : List Effect := c.inputs.toList.map .read

/-- The writes of a contract. -/
def writePlan (c : ContractFields P) : List Effect := c.outputs.toList.map .write

/-- What a complete run of a contract does, in order. -/
def plan (c : ContractFields P) : List Effect :=
  resolvePlan c ++ readPlan c ++ [.run] ++ writePlan c ++ [.notify]

/-! ## The guards -/

section

variable [Pydantic]

/-- What the calls in `pre` establish before the first effect: the message decoded to a document
that is `contract`, whose roles the backend takes and whose URIs both policies accept. -/
structure Admitted (r : ServiceRunner σ P) (raw : RawMessage) (pre : List (Event P))
    (contract : BaseServiceContract P) : Prop where
  decoded : ∃ payload, .decode raw (.ok payload) ∈ pre ∧
    Steps.validate payload r.contractType = .ok contract
  roles : r.checkRoleCompatibility contract = .ok ()
  sources : ∀ s ∈ contract.inputs.toList, r.schemeAllowlist.check s.sourceUri.text = .ok () ∧
    .authorize s.sourceUri.text contract.identity (.ok ()) ∈ pre
  destinations : ∀ s ∈ contract.outputs.toList,
    r.schemeAllowlist.check s.destinationUri.text = .ok () ∧
      .authorize s.destinationUri.text contract.identity (.ok ()) ∈ pre

/-- The backend was called and returned a readout of this very contract. -/
def GatePassed (pre : List (Event P)) (contract : BaseServiceContract P) : Prop :=
  ∃ inputs now result payload,
    .run inputs contract.parameters (ComputeContext.ofContract contract.toContractFields now)
      (.ok result) ∈ pre ∧
      result.byRole.get? readoutOutputRole = some payload ∧
        Explains payload contract.toContractFields

theorem Admitted.mono {r : ServiceRunner σ P} {raw : RawMessage} {pre pre' : List (Event P)}
    {contract : BaseServiceContract P} (h : Admitted r raw pre contract) (hsub : pre ⊆ pre') :
    Admitted r raw pre' contract where
  decoded := h.decoded.imp fun _ hp => ⟨hsub hp.1, hp.2⟩
  roles := h.roles
  sources s hs := ⟨(h.sources s hs).1, hsub (h.sources s hs).2⟩
  destinations s hs := ⟨(h.destinations s hs).1, hsub (h.destinations s hs).2⟩

theorem GatePassed.mono {pre pre' : List (Event P)} {contract : BaseServiceContract P}
    (h : GatePassed pre contract) (hsub : pre ⊆ pre') : GatePassed pre' contract := by
  obtain ⟨inputs, now, result, payload, hrun, hrest⟩ := h
  exact ⟨inputs, now, result, payload, hsub hrun, hrest⟩

/-! ## Each step follows its part of the plan -/

theorem receive_silent (r : ServiceRunner σ P) (raw : RawMessage) (s : σ) :
    (r.receive raw s).trace.filterMap Event.effect? = [] :=
  List.filterMap_eq_nil_iff.mpr fun e he => by
    have hstage := r.receive_stage raw s e he
    exact Event.effect?_eq_none (by simp [hstage])

omit [Pydantic] in
theorem check_silent (r : ServiceRunner σ P) (contract : BaseServiceContract P) (s : σ) :
    (r.check contract s).trace.filterMap Event.effect? = [] :=
  List.filterMap_eq_nil_iff.mpr fun e he => by
    have hstage := r.check_stage contract s e he
    exact Event.effect?_eq_none (by simp [hstage])

omit [UnicodeData] [Pydantic] in
theorem resolveRef_follows (secrets : SecretsPort σ) : ∀ ref : Option SecretRef,
    Traced.Follows Event.effect? (resolutions ref) (Steps.resolveRef secrets ref : Step σ P _)
  | none => Traced.Follows.pure _ _
  | some _ => Traced.Follows.call fun _ => rfl

omit [Pydantic] in
theorem resolveCredentials_follows (contract : BaseServiceContract P) (secrets : SecretsPort σ) :
    Traced.Follows Event.effect? (resolvePlan contract.toContractFields)
      (Steps.resolveCredentials contract secrets) :=
  (Traced.Follows.collect (fun _ => resolveRef_follows secrets _) _).bind fun _ =>
    (Traced.Follows.collect (fun _ => resolveRef_follows secrets _) _).bind_silent fun _ =>
      Traced.Follows.pure _ _

omit [Pydantic] in
theorem loadInputs_follows (contract : BaseServiceContract P) (credentials : CredentialBundle)
    (storage : StoragePort σ) :
    Traced.Follows Event.effect? (readPlan contract.toContractFields)
      (Steps.loadInputs contract credentials storage) := by
  unfold readPlan
  rw [List.map_eq_flatMap]
  refine (Traced.Follows.collect (fun s => ?_) _).bind_silent fun _ => Traced.Follows.pure _ _
  exact (Traced.Follows.lift _ _).silent_bind fun _ => Traced.Follows.call fun _ => rfl

omit [Pydantic] in
theorem saveOutputs_follows (contract : BaseServiceContract P) (credentials : CredentialBundle)
    (result : ComputeResult) (storage : StoragePort σ) :
    Traced.Follows Event.effect? (writePlan contract.toContractFields)
      (Steps.saveOutputs contract credentials result storage) := by
  unfold writePlan
  rw [List.map_eq_flatMap]
  refine (Traced.Follows.collect (fun s => ?_) _).bind_silent fun _ => Traced.Follows.pure _ _
  exact (Traced.Follows.lift _ _).silent_bind fun _ =>
    (Traced.Follows.lift _ _).silent_bind fun _ => Traced.Follows.call fun _ => rfl

omit [Pydantic] in
theorem runCompute_follows (contract : BaseServiceContract P) (inputs : LoadedInputs)
    (compute : ComputeBackendPort σ P) (context : ComputeContext) :
    Traced.Follows Event.effect? [.run] (Steps.runCompute contract inputs compute context) :=
  Traced.Follows.call fun _ => rfl

omit [UnicodeData] [Pydantic] in
theorem notifyWebhook_follows (callback : Callback) (payload : JsonObject)
    (webhook : WebhookPort σ) :
    Traced.Follows Event.effect? [.notify]
      (Steps.notifyWebhook callback payload webhook : Step σ P WebhookAck) :=
  Traced.Follows.call fun _ => rfl

omit [Pydantic] in
theorem prepare_follows (r : ServiceRunner σ P) (contract : BaseServiceContract P) :
    Traced.Follows Event.effect?
      (resolvePlan contract.toContractFields ++ readPlan contract.toContractFields)
      (r.prepare contract) :=
  (resolveCredentials_follows contract r.secrets).bind fun _ =>
    (loadInputs_follows contract _ r.storage).bind_silent fun _ =>
      ((Traced.Silent.call fun _ => rfl).silent_bind fun _ =>
        Traced.Follows.pure _ _).silent_bind fun _ => Traced.Follows.pure _ _

/-- `produce` follows the plan up to the backend. -/
theorem produce_follows (r : ServiceRunner σ P) (contract : BaseServiceContract P) :
    Traced.Follows Event.effect?
      (resolvePlan contract.toContractFields ++ readPlan contract.toContractFields ++ [.run])
      (r.produce contract) :=
  (prepare_follows r contract).bind fun _ =>
    (runCompute_follows contract _ r.compute _).bind_silent fun _ =>
      (Traced.Follows.lift _ _).silent_bind fun _ => Traced.Follows.pure _ _

omit [Pydantic] in
/-- `publish` follows the rest of it. -/
theorem publish_follows (r : ServiceRunner σ P) (contract : BaseServiceContract P)
    (produced : ServiceRunner.Produced) :
    Traced.Follows Event.effect? (writePlan contract.toContractFields ++ [.notify])
      (r.publish contract produced) :=
  (saveOutputs_follows contract _ _ r.storage).bind fun _ =>
    (notifyWebhook_follows contract.callback _ r.webhook).bind_silent fun _ =>
      Traced.Follows.pure _ _

/-! ## The guards hold -/

omit [Pydantic] in
theorem authorizeUri_ok {authorizer : UriAuthorizationPort σ} {schemeAllowlist : SchemeAllowlist}
    {identity : Identity} {uri : String} {s : σ}
    (h : (Steps.authorizeUri authorizer schemeAllowlist identity uri s :
      Outcome (Event P) σ PyException Unit).result = .ok ()) :
    schemeAllowlist.check uri = .ok () ∧
      .authorize uri identity (.ok ()) ∈ (Steps.authorizeUri authorizer schemeAllowlist identity
        uri s : Outcome (Event P) σ PyException Unit).trace := by
  unfold Steps.authorizeUri at h ⊢
  obtain ⟨⟨⟩, hcheck, hcall, htr⟩ := Traced.lift_bind_ok h
  rw [htr, Traced.call_ok hcall]
  exact ⟨hcheck, List.mem_singleton.mpr rfl⟩

/-- A document that decoded and validated. -/
theorem receive_ok {r : ServiceRunner σ P} {raw : RawMessage} {s s' : σ}
    {contract : BaseServiceContract P} {t : List (Event P)}
    (h : r.receive raw s = ⟨.ok contract, s', t⟩) :
    ∃ payload, t = [.decode raw (.ok payload)] ∧
      Steps.validate payload r.contractType = .ok contract := by
  obtain ⟨payload, s₁, t₁, hdecode, hvalidate, htr, -⟩ :=
    Traced.bind_ok (show (r.receive raw s).result = .ok contract by rw [h])
  have hcall := Traced.call_ok (congrArg Outcome.result hdecode)
  have htrace : (r.receive raw s).trace = t := by rw [h]
  refine ⟨payload, ?_, hvalidate⟩
  rw [← htrace, ← hcall]
  exact htr.trans
    (by rw [Traced.run_lift, List.append_nil]; exact (congrArg Outcome.trace hdecode).symm)

omit [Pydantic] in
/-- A contract that passed the role check and both policies. -/
theorem check_ok {r : ServiceRunner σ P} {contract : BaseServiceContract P} {s : σ}
    (h : (r.check contract s).result = .ok ()) :
    r.checkRoleCompatibility contract = .ok () ∧
      (∀ spec ∈ contract.inputs.toList,
        r.schemeAllowlist.check spec.sourceUri.text = .ok () ∧
          .authorize spec.sourceUri.text contract.identity (.ok ()) ∈ (r.check contract s).trace) ∧
      ∀ spec ∈ contract.outputs.toList,
        r.schemeAllowlist.check spec.destinationUri.text = .ok () ∧
          .authorize spec.destinationUri.text contract.identity (.ok ()) ∈
            (r.check contract s).trace := by
  unfold ServiceRunner.check at h ⊢
  obtain ⟨⟨⟩, hroles, hauth, htr⟩ := Traced.lift_bind_ok h
  obtain ⟨⟨⟩, s₁, t₁, hin, hout, htr', -⟩ := Traced.bind_ok hauth
  rw [htr, show (Steps.authorize contract r.authorizer r.schemeAllowlist s).trace = _ from htr']
  refine ⟨hroles, fun spec hspec => ?_, fun spec hspec => ?_⟩
  · have hall := Traced.each_ok (fun spec : InputSpec =>
        Event.authorize spec.sourceUri.text contract.identity (.ok ()))
      (fun _ _ => authorizeUri_ok) (congrArg Outcome.result hin) spec hspec
    rw [hin] at hall
    exact ⟨hall.1, List.mem_append_left _ hall.2⟩
  · have hall := Traced.each_ok (fun spec : OutputSpec =>
        Event.authorize spec.destinationUri.text contract.identity (.ok ()))
      (fun _ _ => authorizeUri_ok) hout spec hspec
    exact ⟨hall.1, List.mem_append_right _ hall.2⟩

/-- **What `receive` and `check` establish.** -/
theorem admitted_of_check {r : ServiceRunner σ P} {raw : RawMessage} {s s₁ s₂ : σ}
    {contract : BaseServiceContract P} {t t' : List (Event P)}
    (hreceive : r.receive raw s = ⟨.ok contract, s₁, t⟩)
    (hcheck : r.check contract s₁ = ⟨.ok (), s₂, t'⟩) : Admitted r raw (t ++ t') contract := by
  obtain ⟨payload, rfl, hvalidate⟩ := receive_ok hreceive
  obtain ⟨hroles, hsources, hdestinations⟩ := check_ok (congrArg Outcome.result hcheck)
  rw [hcheck] at hsources hdestinations
  exact {
    decoded := ⟨payload, List.mem_append_left _ (List.mem_singleton.mpr rfl), hvalidate⟩
    roles := hroles
    sources := fun spec hspec =>
      ⟨(hsources spec hspec).1, List.mem_append_right _ (hsources spec hspec).2⟩
    destinations := fun spec hspec =>
      ⟨(hdestinations spec hspec).1, List.mem_append_right _ (hdestinations spec hspec).2⟩ }

/-- **What `produce` establishes.** -/
theorem gatePassed_of_produce {r : ServiceRunner σ P} {contract : BaseServiceContract P}
    {s s' : σ} {produced : ServiceRunner.Produced} {t : List (Event P)}
    (h : r.produce contract s = ⟨.ok produced, s', t⟩) : GatePassed t contract := by
  obtain ⟨⟨payload, hpayload, hexplains⟩, prepared, now, -, t', -, -, hcontext, -, rfl⟩ :=
    produce_ok h
  exact ⟨prepared.inputs, now, produced.result, payload, by simp [hcontext], hpayload, hexplains⟩

/-! ## Over a whole run -/

/-- What a trace satisfies that keeps the order and both guards. -/
def Ordered (r : ServiceRunner σ P) (raw : RawMessage) (trace : List (Event P)) : Prop :=
  (∀ e ∈ trace, e.effect? = none) ∨ ∃ contract : BaseServiceContract P,
    trace.filterMap Event.effect? <+: plan contract.toContractFields ∧
      ∀ pre e post, trace = pre ++ e :: post →
        (e.effect? ≠ none → Admitted r raw pre contract) ∧
          (e.stage = .publish → GatePassed pre contract)

theorem Ordered.silent {r : ServiceRunner σ P} {raw : RawMessage} {trace : List (Event P)}
    (h : trace.filterMap Event.effect? = []) : Ordered r raw trace :=
  .inl (List.filterMap_eq_nil_iff.mp h)

/-- Once a contract is admitted, the rest follows its plan and stays behind the gate. -/
theorem admitted_ordered {r : ServiceRunner σ P} {raw : RawMessage}
    {contract : BaseServiceContract P} {t : List (Event P)} (ht : Admitted r raw t contract)
    (hsilent : t.filterMap Event.effect? = []) (s : σ) :
    Ordered r raw (t ++ ((r.produce contract >>= r.publish contract) s).trace) := by
  refine .inr ⟨contract, ?_, fun pre e post hsplit => ?_⟩
  · have hfollows := ((produce_follows r contract).bind (publish_follows r contract) s).1
    rw [List.filterMap_append, hsilent, List.nil_append]
    unfold plan
    simpa only [List.append_assoc] using hfollows
  · have hno : e.effect? ≠ none → e ∉ t := fun hne he =>
      hne (List.filterMap_eq_nil_iff.mp hsilent e he)
    constructor
    · intro heffect
      obtain ⟨rest, rfl, -⟩ := Traced.split_right (hno heffect) hsplit
      exact ht.mono (List.subset_append_left t rest)
    · intro hpublish
      obtain ⟨rest, rfl, hrest⟩ :=
        Traced.split_right (hno (Event.effect?_of_publish hpublish)) hsplit
      have hproduce : e ∉ (r.produce contract s).trace := fun hm => by
        rcases r.produce_stage contract s e hm with h | h <;>
          exact absurd (h.symm.trans hpublish) nofun
      obtain ⟨produced, s', t', rest', hproduce, rfl, -⟩ := Traced.bind_split hproduce hrest
      exact (gatePassed_of_produce hproduce).mono fun x hx =>
        List.mem_append_right t (List.mem_append_left rest' hx)

/-- What follows a validated contract keeps the order and both guards. -/
theorem serve_ordered {r : ServiceRunner σ P} {raw : RawMessage} {s s₁ : σ}
    {contract : BaseServiceContract P} {t : List (Event P)}
    (hreceive : r.receive raw s = ⟨.ok contract, s₁, t⟩) :
    Ordered r raw (t ++ (r.serve contract s₁).trace) := by
  have hreceived := receive_silent r raw s
  have hchecked := check_silent r contract s₁
  rw [hreceive] at hreceived
  unfold ServiceRunner.serve
  rcases hcheck : r.check contract s₁ with ⟨e | ⟨⟩, s₂, t'⟩
  · rw [hcheck] at hchecked
    rw [Traced.run_bind_error _ hcheck]
    exact .silent (by rw [List.filterMap_append, hreceived, hchecked]; rfl)
  · rw [hcheck] at hchecked
    rw [Traced.run_bind_ok _ hcheck, ← List.append_assoc]
    exact admitted_ordered (admitted_of_check hreceive hcheck)
      (by rw [List.filterMap_append, hreceived, hchecked]; rfl) s₂

/-- Events without an effect around a trace change neither the order nor the guards. -/
theorem Ordered.surround {r : ServiceRunner σ P} {raw : RawMessage} {trace : List (Event P)}
    (h : Ordered r raw trace) (before : List (Event P)) {after : List (Event P)}
    (hb : ∀ e ∈ before, e.effect? = none) (ha : ∀ e ∈ after, e.effect? = none) :
    Ordered r raw (before ++ (trace ++ after)) := by
  have hlist : (before ++ (trace ++ after)).filterMap Event.effect? =
      trace.filterMap Event.effect? := by
    rw [List.filterMap_append, List.filterMap_append, List.filterMap_eq_nil_iff.mpr hb,
      List.filterMap_eq_nil_iff.mpr ha, List.append_nil, List.nil_append]
  rcases h with h | ⟨contract, hprefix, hguards⟩
  · exact .silent (hlist.trans (List.filterMap_eq_nil_iff.mpr h))
  · refine .inr ⟨contract, hlist ▸ hprefix, fun pre e post hsplit => ?_⟩
    have hinner : e.effect? ≠ none → ∃ pre' post', pre = before ++ pre' ∧
        trace = pre' ++ e :: post' := by
      intro he
      obtain ⟨pre', hpre, hrest⟩ := Traced.split_right (fun hm => he (hb e hm)) hsplit
      obtain ⟨post', htrace⟩ := Traced.split_left (fun hm => he (ha e hm)) hrest
      exact ⟨pre', post', hpre, htrace⟩
    constructor
    · intro he
      obtain ⟨pre', post', rfl, htrace⟩ := hinner he
      exact ((hguards pre' e post' htrace).1 he).mono (List.subset_append_right before pre')
    · intro he
      obtain ⟨pre', post', rfl, htrace⟩ := hinner (Event.effect?_of_publish he)
      exact ((hguards pre' e post' htrace).2 he).mono (List.subset_append_right before pre')

/-- `serve` follows the whole plan. -/
theorem serve_follows (r : ServiceRunner σ P) (contract : BaseServiceContract P) :
    Traced.Follows Event.effect? (plan contract.toContractFields) (r.serve contract) := by
  have hcheck : Traced.Silent Event.effect? (r.check contract) := fun s => by
    rw [check_silent]
    exact ⟨List.nil_prefix, fun _ _ => rfl⟩
  have hrest :=
    (produce_follows r contract).bind fun produced => publish_follows r contract produced
  rw [← List.append_assoc] at hrest
  exact hcheck.silent_bind fun _ => hrest

variable [JsonText]

/-- The receiver branch has no effect of these. -/
theorem handOver_silent (r : ServiceRunner σ P) (contract : BaseServiceContract P) :
    Traced.Emits (fun e => e.effect? = none) (r.handOver contract) :=
  ((r.check_stage contract).mono fun e he => Event.effect?_eq_none (by simp [he])).bind fun _ =>
    (r.dispatch_stage contract).mono fun e he => Event.effect?_eq_none (by simp [he])

/-- A branch keeps the order and both guards. -/
theorem branch_ordered (r : ServiceRunner σ P) (raw : RawMessage) (s : σ) :
    Ordered r raw (r.branch raw s).trace := by
  have hreceived := receive_silent r raw s
  have hobserve : ∀ {after : List (Event P)}, (∀ e ∈ after, e.stage = .observe) →
      ∀ e ∈ after, e.effect? = none := fun h e he => Event.effect?_eq_none (by simp [h e he])
  cases r.branch_run raw s with
  | unread hreceive hcloses =>
    obtain ⟨after, htrace, hafter⟩ := hcloses.trace_eq
    rw [hreceive] at hreceived
    rw [htrace]
    exact (Ordered.silent hreceived).surround [] (by simp) (hobserve hafter)
  | @read contract s₁ t _ _ hreceive hcloses =>
    obtain ⟨after, htrace, hafter⟩ := hcloses.trace_eq
    rw [htrace]
    refine Ordered.surround ?_ [] (by simp) (hobserve hafter)
    unfold ServiceRunner.rest
    split
    · rw [hreceive] at hreceived
      refine .silent ?_
      rw [List.filterMap_append, hreceived,
        List.filterMap_eq_nil_iff.mpr (handOver_silent r contract s₁), List.nil_append]
    · exact serve_ordered hreceive

/-- **A run's effects come in the order of the plan, behind their guards**, and the readout gate
separates contracts. -/
theorem effects_in_order (r : ServiceRunner σ P) (raw : RawMessage) (s : σ) :
    Ordered r raw (r.execute raw s).trace ∧
      ∀ (payload : Bytes) (Q Q' : Type) (c : ContractFields Q) (d : ContractFields Q'),
        PassesGate payload c → PassesGate payload d →
          c.envelope.requestId = d.envelope.requestId ∧ c.references = d.references ∧
            c.identity.tenantId = d.identity.tenantId ∧ c.envelope.origin = d.envelope.origin ∧
              c.service = d.service := by
  refine ⟨?_, fun _ _ _ _ _ hc hd => explains_inj hc.explains hd.explains⟩
  rcases r.execute_cases raw s with ⟨e, s', hx⟩ | ⟨s₀, s', reply, hx⟩
  · rw [hx]
    exact .silent rfl
  · rw [hx]
    exact (branch_ordered r raw s₀).surround [r.entered (.ok ())]
      (by simp [ServiceRunner.entered, Event.effect?])
      (by simp [ServiceRunner.exited, Event.effect?])

end

end Grabatus
