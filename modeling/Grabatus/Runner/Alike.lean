import Grabatus.Lib.InStep
import Grabatus.Runner.Order

/-!
# Two runners on one message

Over `runner/runner.py`. Two runners that differ in their secrets and their backend only, on one
message, from two worlds. `same` relates the worlds, `C` the credentials the one and the other
hold for a role, and `mark` is what is compared of a call.

**The two runs are in step, results included, as soon as the ports are** (`execute_alike`); and the
ports after the check need only be in step for a contract that passed it (`ServesAlike`), at the
specs that contract declares.
-/

namespace Grabatus

open Grabatus.Lib Grabatus.Lib.Traced Grabatus.Python

variable [UnicodeData] {σ P L : Type}

/-- No port tells apart two worlds that are the `same`, up to the check of a contract. -/
structure ServiceRunner.ReceivesAlike (r : ServiceRunner σ P) (same : σ → σ → Prop) : Prop where
  decode : ∀ raw, Respects same (r.message.decode raw) (r.message.decode raw)
  authorize : ∀ uri identity,
    Respects same (r.authorizer.authorize uri identity) (r.authorizer.authorize uri identity)
  dispatch : ∀ job payload requestId, Respects same (r.jobDispatcher.dispatch job payload requestId)
    (r.jobDispatcher.dispatch job payload requestId)
  enter : ∀ span tags,
    Respects same (r.observability.enter span tags) (r.observability.enter span tags)
  exit : ∀ span, Respects same (r.observability.exit span) (r.observability.exit span)
  metric : ∀ name value tags,
    Respects same (r.observability.metric name value tags) (r.observability.metric name value tags)

/-- Nor after it: the secrets of the one runner and of the other resolve to credentials under `C`,
the storage answers either alike at the specs of the contract, and the two backends answer alike. -/
structure ServiceRunner.ServesAlike (r : ServiceRunner σ P) (secrets : SecretsPort σ)
    (compute : ComputeBackendPort σ P) (contract : BaseServiceContract P) (same : σ → σ → Prop)
    (mark : Event P → Option L) (C : Credentials → Credentials → Prop) : Prop where
  null : C nullCredentials nullCredentials
  resolve : ∀ ref s s', same s s' →
    Alike Eq C (r.secrets.resolve ref s).1 (secrets.resolve ref s').1 ∧
    same (r.secrets.resolve ref s).2 (secrets.resolve ref s').2
  read : ∀ spec ∈ contract.inputs.toList, ∀ c c', C c c' →
    Respects same (r.storage.read spec c) (r.storage.read spec c')
  now : Respects same r.clock.now r.clock.now
  run : ∀ inputs context, Respects same (r.compute.run inputs contract.parameters context)
    (compute.run inputs contract.parameters context)
  write : ∀ spec ∈ contract.outputs.toList, ∀ payload c c', C c c' →
    Respects same (r.storage.write spec payload c) (r.storage.write spec payload c')
  notify : ∀ payload, Respects same (r.webhook.notify contract.callback payload)
    (r.webhook.notify contract.callback payload)
  markResolve : ∀ ref reply reply', Alike Eq C reply reply' →
    mark (.resolve ref reply) = mark (.resolve ref reply')
  markRead : ∀ spec c c' reply, C c c' → mark (.read spec c reply) = mark (.read spec c' reply)
  markWrite : ∀ spec payload c c' reply, C c c' →
    mark (.write spec payload c reply) = mark (.write spec payload c' reply)

/-- Two backends that declare the same roles. -/
structure ComputeBackendPort.SameRoles (b b' : ComputeBackendPort σ P) : Prop where
  required : b.requiredInputRoles = b'.requiredInputRoles
  optional : b.optionalInputRoles = b'.optionalInputRoles
  outputs : b.outputRoles = b'.outputRoles

namespace ServiceRunner

/-- The runner with other secrets and another backend. -/
def withPorts (r : ServiceRunner σ P) (secrets : SecretsPort σ) (compute : ComputeBackendPort σ P) :
    ServiceRunner σ P :=
  { r with secrets, compute }

/-- Two bundles that hold credentials under `C` for the same roles. -/
structure BundlesAlike (C : Credentials → Credentials → Prop) (b b' : CredentialBundle) : Prop where
  inputs : Dict.Alike C b.inputs b'.inputs
  outputs : Dict.Alike C b.outputs b'.outputs

variable {r : ServiceRunner σ P} {secrets : SecretsPort σ} {compute : ComputeBackendPort σ P}
  {contract : BaseServiceContract P}
  {same : σ → σ → Prop} {mark : Event P → Option L} {C : Credentials → Credentials → Prop}

/-! ## The stretches -/

/-- The role check looks at the backend's declarations only. -/
theorem checkRoleCompatibility_withPorts (h : r.compute.SameRoles compute)
    (contract : BaseServiceContract P) :
    (r.withPorts secrets compute).checkRoleCompatibility contract =
      r.checkRoleCompatibility contract := by
  rcases compute with ⟨required, optional, outputs, run⟩
  obtain ⟨rfl, rfl, rfl⟩ := h
  rfl

theorem check_alike (h : r.ReceivesAlike same) (hroles : r.compute.SameRoles compute)
    (contract : BaseServiceContract P) :
    InStep same mark Eq Eq (r.check contract) ((r.withPorts secrets compute).check contract) := by
  unfold check
  rw [checkRoleCompatibility_withPorts hroles]
  show InStep same mark Eq Eq _ (do
    Traced.lift (r.checkRoleCompatibility contract)
    Steps.authorize contract r.authorizer r.schemeAllowlist)
  rw [Steps.authorize_eq_each]
  refine (InStep.lift (Alike.refl _)).seq fun _ => InStep.each (fun uri => ?_) _
  exact (InStep.lift (Alike.refl _)).seq fun _ => InStep.call (h.authorize uri _) fun _ => rfl

theorem resolveCredentials_alike (h : r.ServesAlike secrets compute contract same mark C) :
    InStep same mark Eq (BundlesAlike C)
      (Steps.resolveCredentials contract r.secrets : Step σ P CredentialBundle)
      (Steps.resolveCredentials contract secrets) := by
  have hresolve : ∀ ref, InStep same mark Eq C
      (Steps.resolveRef r.secrets ref : Step σ P Credentials) (Steps.resolveRef secrets ref)
    | none => InStep.pure h.null
    | some ref => InStep.callAlike (h.resolve ref) (h.markResolve ref)
  exact (InStep.collectOfMem fun _ _ => hresolve _).bind fun _ _ hin =>
    (InStep.collectOfMem fun _ _ => hresolve _).bind fun _ _ hout => InStep.pure ⟨hin, hout⟩

/-- Looking a role up in dictionaries that are alike. -/
theorem getItem_alike {α β : Type} {V : α → β → Prop} {d : Dict String α} {e : Dict String β}
    (h : Dict.Alike V d e) (role : String) : Alike Eq V (getItem d role) (getItem e role) := by
  unfold getItem
  rcases h.get? role with ⟨hd, he⟩ | ⟨v, w, hd, he, hvw⟩
  · rw [hd, he]
    exact .error rfl
  · rw [hd, he]
    exact .ok hvw

theorem loadInputs_alike (h : r.ServesAlike secrets compute contract same mark C)
    {b b' : CredentialBundle} (hb : BundlesAlike C b b') :
    InStep same mark Eq Eq (Steps.loadInputs contract b r.storage : Step σ P LoadedInputs)
      (Steps.loadInputs contract b' r.storage) := by
  refine InStep.bind (InStep.collectOfMem (W := Eq) fun spec hspec => ?_) fun d d' hd =>
    InStep.pure (congrArg LoadedInputs.mk hd.eq)
  exact (InStep.lift (getItem_alike hb.inputs _)).bind fun c c' hc =>
    InStep.call (h.read spec hspec c c' hc) fun reply => h.markRead spec c c' reply hc

theorem saveOutputs_alike (h : r.ServesAlike secrets compute contract same mark C)
    {b b' : CredentialBundle} (hb : BundlesAlike C b b') (result : ComputeResult) :
    InStep same mark Eq Eq (Steps.saveOutputs contract b result r.storage : Step σ P WriteReceipts)
      (Steps.saveOutputs contract b' result r.storage) := by
  refine InStep.bind (InStep.collectOfMem (W := Eq) fun spec hspec => ?_) fun d d' hd =>
    InStep.pure (congrArg WriteReceipts.mk hd.eq)
  exact (InStep.lift (Alike.refl _)).seq fun payload =>
    (InStep.lift (getItem_alike hb.outputs _)).bind fun c c' hc =>
      InStep.call (h.write spec hspec payload c c' hc) fun reply =>
        h.markWrite spec payload c c' reply hc

/-- What `prepare` hands on: other credentials, the same inputs and context. -/
structure PreparedAlike (C : Credentials → Credentials → Prop) (p p' : Prepared) : Prop where
  credentials : BundlesAlike C p.credentials p'.credentials
  inputs : p.inputs = p'.inputs
  context : p.context = p'.context

theorem prepare_alike (h : r.ServesAlike secrets compute contract same mark C) :
    InStep same mark Eq (PreparedAlike C) (r.prepare contract)
      ((r.withPorts secrets compute).prepare contract) := by
  refine (resolveCredentials_alike h).bind fun b b' hb => ?_
  refine (loadInputs_alike h hb).seq fun inputs => ?_
  have hclock : InStep same mark Eq Eq
      (Steps.makeComputeContext contract r.clock : Step σ P ComputeContext)
      (Steps.makeComputeContext contract r.clock) :=
    (InStep.call h.now fun _ => rfl).seq fun _ => InStep.pure rfl
  exact hclock.seq fun context => InStep.pure ⟨hb, rfl, rfl⟩

/-- What `produce` hands on. -/
structure ProducedAlike (C : Credentials → Credentials → Prop) (p p' : Produced) : Prop where
  credentials : BundlesAlike C p.credentials p'.credentials
  result : p.result = p'.result

variable [Pydantic]

theorem produce_alike (h : r.ServesAlike secrets compute contract same mark C) :
    InStep same mark Eq (ProducedAlike C) (r.produce contract)
      ((r.withPorts secrets compute).produce contract) := by
  refine (prepare_alike h).bind fun p p' hp => ?_
  rcases p with ⟨b, inputs, context⟩
  rcases p' with ⟨b', inputs', context'⟩
  obtain ⟨hb, rfl, rfl⟩ := hp
  exact (InStep.call (h.run _ _) fun _ => rfl).seq fun result =>
    (InStep.lift (Alike.refl _)).seq fun _ => InStep.pure ⟨hb, rfl⟩

omit [Pydantic] in
theorem publish_alike (h : r.ServesAlike secrets compute contract same mark C) {p p' : Produced}
    (hp : ProducedAlike C p p') :
    InStep same mark Eq Eq (r.publish contract p)
      ((r.withPorts secrets compute).publish contract p') := by
  rcases p with ⟨b, result⟩
  rcases p' with ⟨b', result'⟩
  obtain ⟨hb, rfl⟩ := hp
  exact (saveOutputs_alike h hb result).seq fun receipts =>
    (InStep.call (h.notify _) fun _ => rfl).seq fun ack => InStep.pure rfl

/-- **Serving one contract with two sets of secrets**; nothing is asked of a contract that does not
pass the check. -/
theorem serve_alike (hreceives : r.ReceivesAlike same)
    (hroles : r.compute.SameRoles compute) (contract : BaseServiceContract P)
    (hserves : ∀ s, (r.check contract s).result = .ok () →
      r.ServesAlike secrets compute contract same mark C) :
    InStep same mark Eq Eq (r.serve contract) ((r.withPorts secrets compute).serve contract) := by
  refine ((check_alike hreceives hroles contract).known fun s _ => hserves s).bind ?_
  rintro _ _ ⟨-, h⟩
  exact (produce_alike h).bind fun p p' hp => publish_alike h hp

/-! ## A whole run -/

/-- The message can be read as this contract. -/
def Reads (r : ServiceRunner σ P) (raw : RawMessage) (contract : BaseServiceContract P) : Prop :=
  ∃ s s' t, r.receive raw s = ⟨.ok contract, s', t⟩

variable [JsonText]

theorem rest_alike (hreceives : r.ReceivesAlike same)
    (hroles : r.compute.SameRoles compute) (contract : BaseServiceContract P)
    (hserves : ∀ s, (r.check contract s).result = .ok () →
      r.ServesAlike secrets compute contract same mark C) :
    InStep same mark Eq Eq (r.rest contract) ((r.withPorts secrets compute).rest contract) := by
  by_cases hmode : r.mode = .receiver
  · have hdispatch : InStep same mark Eq Eq (r.dispatch contract)
        ((r.withPorts secrets compute).dispatch contract) :=
      (InStep.lift (Alike.refl _)).seq fun _ => (InStep.lift (Alike.refl _)).seq fun _ =>
        (InStep.call (hreceives.dispatch _ _ _) fun _ => rfl).seq fun _ => InStep.pure rfl
    have hrest : ∀ r : ServiceRunner σ P, r.mode = .receiver → r.rest = r.handOver :=
      fun _ h => if_pos h
    rw [hrest r hmode, hrest (r.withPorts secrets compute) hmode]
    exact (check_alike hreceives hroles contract).seq fun _ => hdispatch
  · have hrest : ∀ r : ServiceRunner σ P, r.mode ≠ .receiver → r.rest = r.serve :=
      fun _ h => if_neg h
    rw [hrest r hmode, hrest (r.withPorts secrets compute) hmode]
    exact serve_alike hreceives hroles contract hserves

/-- A branch is its block under the clause, in every mode. -/
theorem branch_eq_handle (r : ServiceRunner σ P) (raw : RawMessage) :
    r.branch raw = handle (r.tryBlock raw r.rest) r.exceptServiceError := by
  unfold branch rest
  by_cases hmode : r.mode = .receiver
  · rw [if_pos hmode, if_pos hmode]
    rfl
  · rw [if_neg hmode, if_neg hmode]
    rfl

/-- **Two runs on one message are in step, and end alike.** -/
theorem execute_alike (hreceives : r.ReceivesAlike same) (hroles : r.compute.SameRoles compute)
    {raw : RawMessage}
    (hserves : ∀ contract, r.Reads raw contract → ∀ s, (r.check contract s).result = .ok () →
      r.ServesAlike secrets compute contract same mark C) :
    InStep same mark Eq Eq (r.execute raw) ((r.withPorts secrets compute).execute raw) := by
  refine InStep.within (InStep.call (hreceives.enter _ _) fun _ => rfl)
    (InStep.call (hreceives.exit _) fun _ => rfl) ?_
  rw [branch_eq_handle, branch_eq_handle]
  have hreceive : InStep same mark Eq (fun a a' => a = a' ∧ r.Reads raw a) (r.receive raw)
      ((r.withPorts secrets compute).receive raw) := by
    refine InStep.known ((InStep.call (hreceives.decode raw) fun _ => rfl).seq fun _ =>
      InStep.lift (Alike.refl _)) fun s contract hok => ?_
    rcases hrun : r.receive raw s with ⟨result, s', t⟩
    rw [hrun] at hok
    obtain rfl : result = .ok contract := hok
    exact ⟨s, s', t, hrun⟩
  have hblock : InStep same mark Eq Eq (r.tryBlock raw r.rest)
      ((r.withPorts secrets compute).tryBlock raw (r.withPorts secrets compute).rest) := by
    refine (hreceive.mapError (S := Eq) fun e e' he => by rw [he]).bind ?_
    rintro contract _ ⟨rfl, hreads⟩
    exact (rest_alike hreceives hroles contract (hserves contract hreads)).mapError
      fun e e' he => by
      rw [he]
  refine hblock.handle fun failure _ hfailure => ?_
  subst hfailure
  rcases failure with ⟨requestId, error | ⟨cls, message⟩⟩
  · exact (InStep.call (hreceives.metric _ _ _) fun _ => rfl).seq fun _ => InStep.pure rfl
  · exact InStep.raise rfl

end ServiceRunner

end Grabatus
