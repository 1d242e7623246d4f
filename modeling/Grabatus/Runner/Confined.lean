import Grabatus.Runner.Obeys

/-!
# A view of the world that a run leaves alone

Over `runner/runner.py`. A view is anything the world holds: an object, the objects of a user. **A
run leaves a view as it was as soon as no port but the storage touches it, and the storage does
not at the specs of a contract that passed the check** (`execute_keeps`): whatever the message is,
whatever the ports reply and wherever the run stops.
-/

namespace Grabatus

open Grabatus.Lib Grabatus.Python

variable [UnicodeData] {σ P ν : Type}

namespace ServiceRunner

/-- No port a `try` block calls touches the view, the storage apart. -/
structure BlockKeeps (r : ServiceRunner σ P) (view : σ → ν) : Prop where
  decode : ∀ raw, Op.Keeps view (r.message.decode raw)
  authorize : ∀ uri identity, Op.Keeps view (r.authorizer.authorize uri identity)
  resolve : ∀ ref, Op.Keeps view (r.secrets.resolve ref)
  now : Op.Keeps view r.clock.now
  run : ∀ inputs parameters context, Op.Keeps view (r.compute.run inputs parameters context)
  notify : ∀ callback payload, Op.Keeps view (r.webhook.notify callback payload)
  dispatch : ∀ job payload requestId, Op.Keeps view (r.jobDispatcher.dispatch job payload requestId)

/-- No port but the storage touches the view. -/
structure KeepsAround (r : ServiceRunner σ P) (view : σ → ν) : Prop extends r.BlockKeeps view where
  enter : ∀ span tags, Op.Keeps view (r.observability.enter span tags)
  exit : ∀ span, Op.Keeps view (r.observability.exit span)
  metric : ∀ name value tags, Op.Keeps view (r.observability.metric name value tags)

/-- The storage does not touch the view at the specs of the contract. -/
structure KeepsAt (r : ServiceRunner σ P) (view : σ → ν) (contract : BaseServiceContract P) :
    Prop where
  read : ∀ spec ∈ contract.inputs.toList, ∀ c, Op.Keeps view (r.storage.read spec c)
  write : ∀ spec ∈ contract.outputs.toList, ∀ payload c,
    Op.Keeps view (r.storage.write spec payload c)

variable {r : ServiceRunner σ P} {view : σ → ν} {contract : BaseServiceContract P}

omit [UnicodeData] in
theorem BlockKeeps.comp {μ : Type} (h : r.BlockKeeps view) (g : ν → μ) :
    r.BlockKeeps fun s => g (view s) where
  decode raw := (h.decode raw).comp g
  authorize uri identity := (h.authorize uri identity).comp g
  resolve ref := (h.resolve ref).comp g
  now := h.now.comp g
  run inputs parameters context := (h.run inputs parameters context).comp g
  notify callback payload := (h.notify callback payload).comp g
  dispatch job payload requestId := (h.dispatch job payload requestId).comp g

omit [UnicodeData] in
/-- Ports that leave a view alone leave every part of it alone. -/
theorem KeepsAround.comp {μ : Type} (h : r.KeepsAround view) (g : ν → μ) :
    r.KeepsAround fun s => g (view s) :=
  { h.toBlockKeeps.comp g with
    enter := fun span tags => (h.enter span tags).comp g
    exit := fun span => (h.exit span).comp g
    metric := fun name value tags => (h.metric name value tags).comp g }

omit [UnicodeData] in
/-- A call that leaves the view alone. -/
theorem frames_call {α : Type} {op : PyOp σ α} (h : Op.Keeps view op)
    (ev : Except PyException α → Event P) :
    Traced.Frames (fun _ => False) view (Traced.call op ev) :=
  Traced.Frames.call fun s _ => h s

omit [UnicodeData] in
theorem BlockKeeps.obeys (h : r.BlockKeeps view) :
    r.BlockObeys fun s t s' => (∀ e ∈ t, ¬ False) → view s' = view s where
  decode raw := frames_call (h.decode raw) _
  authorize uri identity := frames_call (h.authorize uri identity) _
  resolve ref := frames_call (h.resolve ref) _
  now := frames_call h.now _
  run inputs parameters context := frames_call (h.run inputs parameters context) _
  notify callback payload := frames_call (h.notify callback payload) _
  dispatch _ job payload requestId := frames_call (h.dispatch job payload requestId) _

theorem KeepsAt.obeys (h : r.KeepsAt view contract) :
    r.StorageObeys (fun s t s' => (∀ e ∈ t, ¬ False) → view s' = view s) contract where
  read spec hspec c := frames_call (h.read spec hspec c) _
  write spec hspec payload c := frames_call (h.write spec hspec payload c) _

variable [Pydantic] [JsonText]

/-- The `try` block of a run leaves the view as it was. -/
theorem tryBlock_keeps (h : r.BlockKeeps view) {raw : RawMessage}
    (hstorage : ∀ contract, r.Reads raw contract → ∀ s, (r.check contract s).result = .ok () →
      r.KeepsAt view contract) (s : σ) : view (r.tryBlock raw r.rest s).world = view s :=
  tryBlock_obeys (Traced.Frames.composes _ view) h.obeys
    (fun contract hreads s hcheck => (hstorage contract hreads s hcheck).obeys) s fun _ _ => id

/-- **A run leaves the view as it was.** -/
theorem execute_keeps (h : r.KeepsAround view) {raw : RawMessage}
    (hstorage : ∀ contract, r.Reads raw contract → ∀ s, (r.check contract s).result = .ok () →
      r.KeepsAt view contract) (s : σ) : view (r.execute raw s).world = view s := by
  have hcalls : r.CallsObey fun s t s' => (∀ e ∈ t, ¬ False) → view s' = view s :=
    { h.toBlockKeeps.obeys with
      enter := fun span tags => frames_call (h.enter span tags) _
      exit := fun span => frames_call (h.exit span) _
      metric := fun name value tags => frames_call (h.metric name value tags) _ }
  exact execute_obeys (Traced.Frames.composes _ view) hcalls
    (fun contract hreads s hcheck => (hstorage contract hreads s hcheck).obeys) s fun _ _ => id

end ServiceRunner

end Grabatus
